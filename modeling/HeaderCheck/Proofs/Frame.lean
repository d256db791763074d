/-
# What a fix leaves alone

However many passes it takes, fixing a text amounts to one edit of it, and
the range of that edit is known from the verdict alone: the place of the
header where nothing stands there, the comment where the pattern rejects it,
and the end of the comment where the pattern accepts it (`Verdict.slot`).
What the edit brings is line breaks, and a header among them in the first
two cases.

The invariant of the passes after the first is that a header stands behind
the same front and gap, with the old rest after it up to line breaks
(`repeatPass_header`).  A later pass may write the header again or break
more lines after it, but nothing else.
-/
import HeaderCheck.Proofs.Convergence

namespace HeaderCheck

variable {r : Rule}

/-! ## The slot -/

/-- The byte range that a fix may touch, for a header that may begin at
`offset`. -/
def Verdict.slot (offset : Nat) : Verdict → Nat × Nat
  | .valid c => (c.stop, c.stop)
  | .missing => (offset, offset)
  | .mismatched c _ => (c.start, c.stop)

/-- One rendered header, with nothing but line breaks around it. -/
def IsHeaderAmongBreaks (template h : Text) : Prop :=
  ∃ (ending : LineEnding) (lead trail : Text),
    h = lead ++ renderBlock template ending 0 ++ trail ∧ lead.IsBreaks ∧ trail.IsBreaks

/-- What a fix may put into its slot. -/
def Verdict.Allows (template : Option Text) (h : Text) : Verdict → Prop
  | .valid _ => h.IsBreaks
  | _ => ∃ τ, template = some τ ∧ IsHeaderAmongBreaks τ h

/-! ## The passes -/

section Passes

variable {a : Anatomy}

/-- Behind an accepted comment, passes put line breaks and no more. -/
theorem repeatPass_valid (h : a.Sound) (hp : r.pattern.accepts a.comment.body = true) (n : Nat) :
    ∃ breaks : Text, breaks.IsBreaks ∧
      r.repeatPass n a.text = a.front ++ a.gap ++ a.comment.text ++ breaks ++ a.rest ∧
      (r.check a.text = none → breaks = []) := by
  have hpass := pass_valid h hp
  by_cases hs : r.blankLine = true ∧ ¬ a.Spaced
  · rw [if_pos hs] at hpass
    cases n with
    | zero =>
        exact ⟨[], .nil, by rw [Rule.repeatPass, a.text_eq, List.append_nil], fun _ => rfl⟩
    | succ n =>
        have hclean : Settled r a.spaced.text :=
          Or.inl (pass_spaced (h.spaced hs.2) hp a.spaced_spaced)
        refine ⟨_, .times (LineEnding.detect a.text) (breaksAfterHeader - a.breaks), ?_, ?_⟩
        · rw [repeatPass_of_changed hpass, hclean.repeatPass_eq, a.spaced.text_eq,
            List.append_assoc _ _ a.rest]
          rfl
        · intro hnone
          rw [pass_eq_clean_iff.mpr hnone] at hpass
          exact Rule.Pass.noConfusion hpass
  · rw [if_neg hs] at hpass
    refine ⟨[], .nil, ?_, fun _ => rfl⟩
    rw [Settled.repeatPass_eq (Or.inl hpass), a.text_eq, List.append_nil]

/-- Where a header stands, passes keep a header, and put line breaks behind
it and no more. -/
theorem repeatPass_header {template : Text} (ht : r.template = some template)
    (hc : Text.includes closingMark template = false) (n : Nat) :
    ∀ {a : Anatomy}, a.Sound → (∃ ending, a.comment = header template ending) →
      ∃ (ending : LineEnding) (trail : Text), trail.IsBreaks ∧
        r.repeatPass n a.text =
          a.front ++ a.gap ++ (renderBlock template ending 0 ++ trail) ++ a.rest := by
  induction n with
  | zero =>
      rintro a - ⟨ending, hcomment⟩
      refine ⟨ending, [], .nil, ?_⟩
      rw [Rule.repeatPass, a.text_eq, hcomment, renderBlock_zero, List.append_nil]
  | succ n ih =>
      rintro a ha ⟨ending, hcomment⟩
      cases hp : r.pattern.accepts a.comment.body with
      | true =>
          obtain ⟨breaks, hb, hx, -⟩ := repeatPass_valid ha hp (n + 1)
          refine ⟨ending, breaks, hb, ?_⟩
          rw [hx, hcomment, renderBlock_zero]
          simp only [List.append_assoc]
      | false =>
          have hpass := pass_mismatched ha hp
          rw [ht] at hpass
          rw [repeatPass_of_changed hpass]
          exact ih (ha.withHeader hc) ⟨_, rfl⟩

/-- A rejected comment is exchanged for a header. -/
theorem repeatPass_mismatched (h : a.Sound) (hp : r.pattern.accepts a.comment.body = false)
    {template : Text} (ht : r.template = some template)
    (hc : Text.includes closingMark template = false) (n : Nat) :
    ∃ new : Text, IsHeaderAmongBreaks template new ∧
      r.repeatPass (n + 1) a.text = a.front ++ a.gap ++ new ++ a.rest := by
  have hfirst := pass_mismatched h hp
  rw [ht] at hfirst
  obtain ⟨ending, trail, htrail, hx⟩ := repeatPass_header ht hc n (h.withHeader hc) ⟨_, rfl⟩
  refine ⟨_, ⟨ending, [], trail, rfl, .nil, htrail⟩, ?_⟩
  rw [repeatPass_of_changed hfirst, hx]
  rfl

theorem isBreaks_insertionLead (front rest : Text) : (insertionLead front rest).IsBreaks := by
  rw [insertionLead]
  split
  · exact .mark _
  · exact .nil

/-- Where nothing stands, a header is put between the front and the
rest. -/
theorem repeatPass_bare {front rest : Text} (h : Bare front rest)
    {template : Text} (ht : r.template = some template)
    (hc : Text.includes closingMark template = false) (n : Nat) :
    ∃ new : Text, IsHeaderAmongBreaks template new ∧
      r.repeatPass (n + 1) (front ++ rest) = front ++ new ++ rest := by
  have hfirst := pass_bare h r
  rw [ht] at hfirst
  obtain ⟨ending, trail, htrail, hx⟩ :=
    repeatPass_header ht hc n (sound_inserted h hc) ⟨_, rfl⟩
  have hspace := htrail.append (.times (LineEnding.detect (front ++ rest)) breaksAfterHeader)
  refine ⟨_, ⟨ending, _, _, rfl, isBreaks_insertionLead front rest, hspace⟩, ?_⟩
  rw [repeatPass_of_changed hfirst, hx]
  simp only [inserted, List.append_assoc, List.append_nil]

end Passes

/-! ## The outcome as one edit -/

/-- **Fixing never touches code.**  The outcome is the text with its slot
edited; the opening lies before the slot, and a clean text stays as it
is. -/
theorem fixed?_frame {t x : Text} (hr : ∀ τ ∈ r.template, Text.includes closingMark τ = false)
    (h : r.fixed? t = some x) :
    ∃ (v : Verdict) (f : Fix), r.verdict? t = some v ∧
      (f.start, f.stop) = v.slot t.headerStart ∧ t.headerStart ≤ f.start ∧
      v.Allows r.template f.replacement ∧ f.edit? t = some x ∧
      (r.check t = none → f.replacement = []) := by
  obtain ⟨hpass, rfl⟩ := fixed?_eq_some_iff.mp h
  rcases exists_anatomy t with ⟨a, ha, rfl⟩ | ⟨front, rest, hb, rfl⟩
  · have hstart : a.text.headerStart ≤ a.span.start := by
      rw [ha.headerStart_eq]
      exact Nat.le_add_right _ _
    cases hp : r.pattern.accepts a.comment.body with
    | true =>
        obtain ⟨breaks, hbreaks, hx, hnone⟩ := repeatPass_valid ha hp Rule.maxPasses
        refine ⟨.valid a.span, .insertion a.span.stop breaks, by rw [ha.verdict?_eq, if_pos hp],
          rfl, ?_, hbreaks, by rw [hx, a.edit?_span_stop], hnone⟩
        exact hstart.trans (Nat.le_add_right _ _)
    | false =>
        cases ht : r.template with
        | none => exact absurd (by rw [pass_mismatched ha hp, ht]) hpass
        | some τ =>
            obtain ⟨new, hnew, hx⟩ := repeatPass_mismatched ha hp ht (hr τ ht) 2
            refine ⟨.mismatched a.span true, ⟨a.span.start, a.span.stop, new⟩,
              by rw [ha.verdict?_eq, hp]; rfl, rfl, hstart, ⟨τ, rfl, hnew⟩,
              by rw [Rule.maxPasses, hx, a.edit?_span], ?_⟩
            intro hnone
            rw [check_mismatched ha hp] at hnone
            exact absurd hnone (by simp)
  · have hfront := hb.headerStart_eq
    cases ht : r.template with
    | none => exact absurd (by rw [pass_bare hb r, ht]) hpass
    | some τ =>
        obtain ⟨new, hnew, hx⟩ := repeatPass_bare hb ht (hr τ ht) 2
        refine ⟨.missing, .insertion (Text.width front) new, hb.verdict?_eq r,
          by rw [hfront]; rfl, by rw [hfront]; exact Nat.le_refl _, ⟨τ, rfl, hnew⟩,
          by rw [Rule.maxPasses, hx, Text.edit?_insertion], ?_⟩
        intro hnone
        rw [check_bare hb] at hnone
        exact absurd hnone (by simp)

/-- A mark and a gap stay in front of the new header, and the code behind
the old one moves to a line of its own. -/
theorem fixed?_frame_mark :
    let r := yearRule "2017".toList "(c) 2017".toList
    let t : Text := "\uFEFF \n/* MIT */foo();".toList
    let x : Text := "\uFEFF \n/*\n * (c) 2017\n */\n\nfoo();".toList
    Text.includes closingMark "(c) 2017".toList = false ∧ r.fixed? t = some x ∧
      ∃ (v : Verdict) (f : Fix), r.verdict? t = some v ∧
        (f.start, f.stop) = v.slot t.headerStart ∧ t.headerStart ≤ f.start ∧
        v.Allows r.template f.replacement ∧ f.edit? t = some x ∧
        (r.check t = none → f.replacement = []) := by
  intro r t x
  have hc : Text.includes closingMark "(c) 2017".toList = false := by decide
  have hx : r.fixed? t = some x := by decide
  have hr : ∀ τ ∈ r.template, Text.includes closingMark τ = false := by
    rintro τ ⟨⟩
    exact hc
  exact ⟨hc, hx, fixed?_frame hr hx⟩

end HeaderCheck
