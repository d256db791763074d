/-
# Fixing converges

A text is settled when a pass finds nothing to do or makes an edit that
changes nothing.  The second case is real: a template need not satisfy the
pattern, and then the header that a fix wrote is rejected and replaced by
itself, time and again.

Two passes settle every text that the first one does not give up on
(`settlesIn_two`), so the bound on passes never cuts the work short.  There
are texts that need both even without a blank line to add: a header is
inserted after an interpreter line that ended in a bare carriage return,
the text is read in the other convention from then on, and the header is
written once more.

Hence the outcome of a fix is settled, and fixing it again returns it
(`fixed?_idempotent`).  If the pattern accepts the rendered template, the
outcome is clean (`fix_converges`).
-/
import HeaderCheck.Proofs.Pass

namespace HeaderCheck

variable {r : Rule}

/-! ## Settled texts -/

/-- A pass leaves the text as it is. -/
def Settled (r : Rule) (t : Text) : Prop :=
  r.pass t = .clean ∨ r.pass t = .changed t

/-- A number of passes suffices to settle the text. -/
inductive SettlesIn (r : Rule) : Nat → Text → Prop
  | now {n : Nat} {t : Text} : Settled r t → SettlesIn r n t
  | after {n : Nat} {t u : Text} : r.pass t = .changed u → SettlesIn r n u → SettlesIn r (n + 1) t

theorem repeatPass_of_changed {t u : Text} (h : r.pass t = .changed u) (n : Nat) :
    r.repeatPass (n + 1) t = r.repeatPass n u := by
  rw [Rule.repeatPass, h]

theorem Settled.repeatPass_eq {t : Text} (h : Settled r t) (n : Nat) : r.repeatPass n t = t := by
  induction n with
  | zero => rfl
  | succ n ih =>
      rcases h with h | h
      · rw [Rule.repeatPass, h]
      · rw [repeatPass_of_changed h, ih]

theorem SettlesIn.mono {n m : Nat} {t : Text} (h : SettlesIn r n t) (hm : n ≤ m) :
    SettlesIn r m t := by
  induction h generalizing m with
  | now h => exact .now h
  | after hpass _ ih =>
      obtain ⟨k, rfl⟩ : ∃ k, m = k + 1 := ⟨m - 1, by omega⟩
      exact .after hpass (ih (Nat.le_of_succ_le_succ hm))

/-- So many passes do settle it. -/
theorem SettlesIn.settled_repeatPass {n : Nat} {t : Text} (h : SettlesIn r n t) :
    Settled r (r.repeatPass n t) := by
  induction h with
  | @now n t h =>
      rw [h.repeatPass_eq n]
      exact h
  | after hpass _ ih =>
      rw [repeatPass_of_changed hpass]
      exact ih

/-! ## Every text settles -/

section Settles

variable {a : Anatomy} {template : Text}

/-- After an accepted comment, only the blank line can be missing. -/
theorem settlesIn_valid (h : a.Sound) (hp : r.pattern.accepts a.comment.body = true) :
    SettlesIn r 1 a.text := by
  have hpass := pass_valid h hp
  by_cases hs : r.blankLine = true ∧ ¬ a.Spaced
  · rw [if_pos hs] at hpass
    exact .after hpass (.now (Or.inl (pass_spaced (h.spaced hs.2) hp a.spaced_spaced)))
  · rw [if_neg hs] at hpass
    exact .now (Or.inl hpass)

/-- A rejected header that a fix has put in place of a comment is replaced
by itself. -/
theorem pass_withHeader_rejected (h : a.Sound) (ht : r.template = some template)
    (hc : Text.includes closingMark template = false)
    (hp : r.pattern.accepts (a.withHeader template).comment.body = false) :
    r.pass (a.withHeader template).text = .changed (a.withHeader template).text := by
  have hpass := pass_mismatched (h.withHeader hc) hp
  rw [ht] at hpass
  simp only [Anatomy.withHeader_withHeader] at hpass
  exact hpass

theorem settlesIn_comment (h : a.Sound) (ht : r.template = some template)
    (hc : Text.includes closingMark template = false) : SettlesIn r 2 a.text := by
  cases hp : r.pattern.accepts a.comment.body with
  | true => exact (settlesIn_valid h hp).mono (Nat.le_succ 1)
  | false =>
      have hpass := pass_mismatched h hp
      rw [ht] at hpass
      refine .after hpass ?_
      -- only an accepted header is asked for the blank line after it
      cases hq : r.pattern.accepts (a.withHeader template).comment.body with
      | true => exact settlesIn_valid (h.withHeader hc) hq
      | false => exact .now (Or.inr (pass_withHeader_rejected h ht hc hq))

/-- An inserted header has its blank line, and keeps it when it is written
in another convention. -/
theorem settlesIn_inserted (h : a.Sound) (ht : r.template = some template)
    (hc : Text.includes closingMark template = false) (hs : a.Spaced) :
    SettlesIn r 1 a.text := by
  cases hp : r.pattern.accepts a.comment.body with
  | true => exact .now (Or.inl (pass_spaced h hp hs))
  | false =>
      have hpass := pass_mismatched h hp
      rw [ht] at hpass
      refine .after hpass (.now ?_)
      cases hq : r.pattern.accepts (a.withHeader template).comment.body with
      | true => exact Or.inl (pass_spaced (h.withHeader hc) hq hs)
      | false => exact Or.inr (pass_withHeader_rejected h ht hc hq)

theorem settlesIn_bare {front rest : Text} (h : Bare front rest) (ht : r.template = some template)
    (hc : Text.includes closingMark template = false) : SettlesIn r 2 (front ++ rest) := by
  have hpass := pass_bare h r
  rw [ht] at hpass
  exact .after hpass
    (settlesIn_inserted (sound_inserted h hc) ht hc (spaced_inserted front rest template))

end Settles

theorem settlesIn_two (hr : ∀ τ ∈ r.template, Text.includes closingMark τ = false) {t : Text}
    (h : r.pass t ≠ .stuck) : SettlesIn r 2 t := by
  cases ht : r.template with
  | some τ =>
      have hc := hr τ ht
      rcases exists_anatomy t with ⟨a, ha, rfl⟩ | ⟨front, rest, hb, rfl⟩
      · exact settlesIn_comment ha ht hc
      · exact settlesIn_bare hb ht hc
  | none =>
      rcases exists_anatomy t with ⟨a, ha, rfl⟩ | ⟨front, rest, hb, rfl⟩
      · cases hp : r.pattern.accepts a.comment.body with
        | true => exact (settlesIn_valid ha hp).mono (Nat.le_succ 1)
        | false => exact absurd (by rw [pass_mismatched ha hp, ht]) h
      · exact absurd (by rw [pass_bare hb r, ht]) h

/-! ## The outcome of a fix -/

theorem pass_eq_clean_iff {t : Text} : r.pass t = .clean ↔ r.check t = none := by
  rw [Rule.pass]
  cases r.check t with
  | none => simp
  | some d => cases he : d.fix.bind (·.edit? t) <;> simp [he]

theorem pass_eq_changed_iff {t u : Text} :
    r.pass t = .changed u ↔
      ∃ d f, r.check t = some d ∧ d.fix = some f ∧ f.edit? t = some u := by
  rw [Rule.pass]
  cases r.check t with
  | none => simp
  | some d =>
      cases hf : d.fix with
      | none => simp [hf]
      | some f => cases he : f.edit? t <;> simp [hf, he]

theorem fixed?_eq_some_iff {t x : Text} :
    r.fixed? t = some x ↔ r.pass t ≠ .stuck ∧ x = r.repeatPass Rule.maxPasses t := by
  rw [Rule.fixed?]
  cases r.pass t <;> simp [eq_comm]

theorem settled_of_fixed? {t x : Text} (hr : ∀ τ ∈ r.template, Text.includes closingMark τ = false)
    (h : r.fixed? t = some x) : Settled r x := by
  obtain ⟨hpass, rfl⟩ := fixed?_eq_some_iff.mp h
  have hin : SettlesIn r Rule.maxPasses t := (settlesIn_two hr hpass).mono (Nat.le_succ 2)
  exact hin.settled_repeatPass

theorem Settled.fixed?_eq {t : Text} (h : Settled r t) : r.fixed? t = some t := by
  refine fixed?_eq_some_iff.mpr ⟨?_, (h.repeatPass_eq _).symm⟩
  rcases h with h | h <;> rw [h] <;> simp

/-- **A fixed text is settled, and fixing it once more returns it.** -/
theorem fixed?_idempotent {t x : Text} (hr : ∀ τ ∈ r.template, Text.includes closingMark τ = false)
    (h : r.fixed? t = some x) :
    (r.check x = none ∨
        ∃ d f, r.check x = some d ∧ d.fix = some f ∧ f.edit? x = some x) ∧
      r.fixed? x = some x := by
  obtain ⟨hpass, rfl⟩ := fixed?_eq_some_iff.mp h
  have hin : SettlesIn r Rule.maxPasses t := (settlesIn_two hr hpass).mono (Nat.le_succ 2)
  have hs := hin.settled_repeatPass
  constructor
  · rcases hs with hs | hs
    · exact Or.inl (pass_eq_clean_iff.mp hs)
    · exact Or.inr (pass_eq_changed_iff.mp hs)
  · refine fixed?_eq_some_iff.mpr ⟨?_, (hs.repeatPass_eq _).symm⟩
    rcases hs with hs | hs <;> rw [hs] <;> simp

/-- A rule that looks for a year and asks for a blank line. -/
def yearRule (year template : Text) : Rule :=
  { pattern := ⟨year, Text.includes year⟩, template := some template, blankLine := true }

/-- The template has the wrong year, and the interpreter line ends in a
carriage return: both passes change the text, and a third one would not. -/
theorem fixed?_idempotent_wrongYear :
    let r := yearRule "2018".toList "(c) 2017".toList
    let x := "#!/bin/sh\r\n/*\r\n * (c) 2017\r\n */\n\n".toList
    Text.includes closingMark "(c) 2017".toList = false ∧
      r.fixed? "#!/bin/sh\r".toList = some x ∧
      (r.check x = none ∨
        ∃ d f, r.check x = some d ∧ d.fix = some f ∧ f.edit? x = some x) ∧
      r.fixed? x = some x := by
  intro r x
  have hc : Text.includes closingMark "(c) 2017".toList = false := by decide
  have hx : r.fixed? "#!/bin/sh\r".toList = some x := by decide
  have hr : ∀ τ ∈ r.template, Text.includes closingMark τ = false := by
    rintro τ ⟨⟩
    exact hc
  exact ⟨hc, hx, fixed?_idempotent hr hx⟩

/-! ## Accepted templates -/

section Accepted

variable {a : Anatomy}

/-- Passes over a text with an accepted comment end with a clean one. -/
theorem check_repeatPass_valid (h : a.Sound) (hp : r.pattern.accepts a.comment.body = true)
    (n : Nat) : r.check (r.repeatPass (n + 1) a.text) = none := by
  have hpass := pass_valid h hp
  by_cases hs : r.blankLine = true ∧ ¬ a.Spaced
  · rw [if_pos hs] at hpass
    have hclean := pass_spaced (h.spaced hs.2) hp a.spaced_spaced
    rw [repeatPass_of_changed hpass, Settled.repeatPass_eq (Or.inl hclean)]
    exact pass_eq_clean_iff.mp hclean
  · rw [if_neg hs] at hpass
    rw [Settled.repeatPass_eq (Or.inl hpass)]
    exact pass_eq_clean_iff.mp hpass

/-- All that a check can find behind an accepted comment is a missing blank
line, and the fix for it leaves nothing to find. -/
theorem check_valid_fix (h : a.Sound) (hp : r.pattern.accepts a.comment.body = true)
    {d : Diagnostic} (hd : r.check a.text = some d) :
    d.finding = .missingNewLine ∧
      ∃ f u, d.fix = some f ∧ f.edit? a.text = some u ∧ r.check u = none := by
  rw [check_valid h hp] at hd
  split at hd
  next hs =>
    obtain rfl := Option.some.inj hd
    refine ⟨rfl, a.spacing, a.spaced.text, rfl, a.edit?_spacing, ?_⟩
    exact pass_eq_clean_iff.mp (pass_spaced (h.spaced hs.2) hp a.spaced_spaced)
  next => exact absurd hd (by simp)

/-- A fix that leads to an accepted comment is the last that its header
needs. -/
theorem converges_of_edit {t : Text} {d : Diagnostic} {f : Fix} (h : a.Sound)
    (hp : r.pattern.accepts a.comment.body = true) (hd : r.check t = some d)
    (hf : d.fix = some f) (he : f.edit? t = some a.text)
    (hs : r.verdict? t = some .missing → a.Spaced) :
    ∃ f u, d.fix = some f ∧ f.edit? t = some u ∧
      (∀ e, r.check u = some e → e.finding ≠ .missingHeader) ∧
      (r.blankLine = false ∨ r.verdict? t = some .missing → r.check u = none) ∧
      (∀ e, r.check u = some e → e.finding = .missingNewLine ∧
        ∃ g v, e.fix = some g ∧ g.edit? u = some v ∧ r.check v = none) ∧
      ∃ x, r.fixed? t = some x ∧ r.check x = none := by
  have hpass : r.pass t = .changed a.text := pass_eq_changed_iff.mpr ⟨d, f, hd, hf, he⟩
  refine ⟨f, a.text, hf, he, ?_, ?_, fun e => check_valid_fix h hp, ?_⟩
  · intro e he
    rw [(check_valid_fix h hp he).1]
    decide
  · rintro (hblank | hv)
    · rw [check_valid h hp, hblank, if_neg fun hb => Bool.false_ne_true hb.1]
    · exact pass_eq_clean_iff.mp (pass_spaced h hp (hs hv))
  · refine ⟨r.repeatPass Rule.maxPasses t, fixed?_eq_some_iff.mpr ⟨?_, rfl⟩, ?_⟩
    · rw [hpass]
      exact fun e => Rule.Pass.noConfusion e
    · rw [Rule.maxPasses, repeatPass_of_changed hpass]
      exact check_repeatPass_valid h hp 1

end Accepted

/-- A missing header is fixed by the header for the template, in place of a
comment or where none stands; and then a blank line follows it. -/
theorem exists_header_of_check {t template : Text} {d : Diagnostic}
    (ht : r.template = some template) (hc : Text.includes closingMark template = false)
    (hd : r.check t = some d) (hm : d.finding = .missingHeader) :
    ∃ f, ∃ a : Anatomy, d.fix = some f ∧ f.edit? t = some a.text ∧ a.Sound ∧
      a.comment = header template (LineEnding.detect t) ∧
      (r.verdict? t = some .missing → a.Spaced) := by
  cases reports_of_check hd with
  | unspaced => exact Finding.noConfusion hm
  | @mismatched a ha hacc =>
      rw [ht]
      refine ⟨_, a.withHeader template, rfl, a.edit?_replaceComment template, ha.withHeader hc,
        rfl, fun hv => ?_⟩
      rw [ha.verdict?_eq, hacc] at hv
      exact absurd hv (by simp)
  | @missing front rest hb =>
      rw [ht]
      exact ⟨_, inserted front rest template, rfl, edit?_insertion_header front rest template,
        sound_inserted hb hc, rfl, fun _ => spaced_inserted front rest template⟩

/-- **A missing header that the pattern will accept is fixed for good.**
The pattern is asked about the inner text of the rendered header; the fix
then makes the header pass, and only the blank line after a replaced comment
can be left to a second fix. -/
theorem fix_converges {t template : Text} {d : Diagnostic} (ht : r.template = some template)
    (hc : Text.includes closingMark template = false)
    (hp : (renderBlock template (LineEnding.detect t) 0).blockInner?.any r.pattern.accepts = true)
    (hd : r.check t = some d) (hm : d.finding = .missingHeader) :
    ∃ f u, d.fix = some f ∧ f.edit? t = some u ∧
      (∀ e, r.check u = some e → e.finding ≠ .missingHeader) ∧
      (r.blankLine = false ∨ r.verdict? t = some .missing → r.check u = none) ∧
      (∀ e, r.check u = some e → e.finding = .missingNewLine ∧
        ∃ g v, e.fix = some g ∧ g.edit? u = some v ∧ r.check v = none) ∧
      ∃ x, r.fixed? t = some x ∧ r.check x = none := by
  rw [blockInner?_renderBlock _ hc, Option.any_some] at hp
  obtain ⟨f, a, hf, he, ha, hcomment, hs⟩ := exists_header_of_check ht hc hd hm
  have hacc : r.pattern.accepts a.comment.body = true := by
    rw [hcomment]
    exact hp
  exact converges_of_edit ha hacc hd hf he hs

/-- A line comment in a file of the other convention is replaced, and the
blank line is left to the second fix. -/
theorem fix_converges_lineComment :
    let r := yearRule "2017".toList "(c) 2017".toList
    let t := "#!/bin/sh\r\n// MIT\r\nfoo();".toList
    let d := Diagnostic.at .missingHeader 11
      (some ⟨11, 17, "/*\r\n * (c) 2017\r\n */".toList⟩)
    Text.includes closingMark "(c) 2017".toList = false ∧
      (renderBlock "(c) 2017".toList (LineEnding.detect t) 0).blockInner?.any
        r.pattern.accepts = true ∧
      r.check t = some d ∧ d.finding = .missingHeader ∧
      ∃ f u, d.fix = some f ∧ f.edit? t = some u ∧
        (∀ e, r.check u = some e → e.finding ≠ .missingHeader) ∧
        (r.blankLine = false ∨ r.verdict? t = some .missing → r.check u = none) ∧
        (∀ e, r.check u = some e → e.finding = .missingNewLine ∧
          ∃ g v, e.fix = some g ∧ g.edit? u = some v ∧ r.check v = none) ∧
        ∃ x, r.fixed? t = some x ∧ r.check x = none := by
  intro r t d
  have hc : Text.includes closingMark "(c) 2017".toList = false := by decide
  have hp : (renderBlock "(c) 2017".toList (LineEnding.detect t) 0).blockInner?.any
      r.pattern.accepts = true := by decide
  have hd : r.check t = some d := by decide
  exact ⟨hc, hp, hd, rfl, fix_converges rfl hc hp hd rfl⟩

end HeaderCheck
