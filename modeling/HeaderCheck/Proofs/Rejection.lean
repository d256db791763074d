/-
# A rejected comment stands in the place of the header

The verdict `mismatched` records whether only a gap separates the comment from
the offset at which the scan started, and a fix replaces the comment if so and
inserts a header in front of it if not.  The scanner and the verdict come to
the gap in different ways: the scanner steps over it and adds up its width, the
verdict cuts the text at the two offsets and looks at every character between
them.  They agree at every place of every text (`judgesInPlace`), because both
offsets are widths of beginnings of the text: what is cut out there is the gap
itself, whatever the widths of its characters, and also if it is empty.

So the second of the two fixes is never offered.  A rule with a template
replaces a mismatched comment where it stands (`replacesInPlace`), and inserts
a header just where no comment was found (`inserts_iff`).
-/
import HeaderCheck.Proofs.Convergence
import HeaderCheck.Proofs.Cuts

namespace HeaderCheck

/-! ## The verdict on a scan from any place -/

section Scan

variable {t : Text} {offset : Nat}

/-- The scanner has an answer at the places of a text, and at no other
offset. -/
theorem isSome_locate?_iff : (Comment.locate? t offset).isSome = true ↔ t.IsPlace offset := by
  rw [Comment.locate?, Option.isSome_map, Text.from?, Option.isSome_map, Text.isSome_cut?_iff]

/-- What the scanner finds from an offset is a comment behind a gap that
begins there. -/
theorem exists_scanned_of_locate? {c : Comment} (h : Comment.locate? t offset = some (some c)) :
    ∃ a : Anatomy, a.Scanned ∧ t = a.text ∧ offset = Text.width a.front ∧ c = a.span := by
  obtain ⟨rest, hrest, hopens⟩ := Option.map_eq_some_iff.mp h
  obtain ⟨front, rfl, rfl⟩ := Text.from?_eq_some_iff.mp hrest
  obtain ⟨p, hp, -⟩ := Option.map_eq_some_iff.mp hopens
  obtain ⟨w, after, hw, hfits⟩ := Text.exists_written hp
  let a : Anatomy := ⟨front, rest.takeWhile isGap, w, after⟩
  have ha : a.Scanned := ⟨fun _ hc => List.mem_takeWhile_imp hc, hfits⟩
  have ht : front ++ rest = a.text := by
    rw [Anatomy.text, ← hw, List.takeWhile_append_dropWhile]
  refine ⟨a, ha, ht, rfl, ?_⟩
  rw [ht, ha.locate?_eq] at h
  exact (Option.some.inj (Option.some.inj h)).symm

/-- The scan from an offset has an answer, and so has the verdict on it.  A
comment is mismatched exactly if it is the one that was found and the pattern
rejects its inner text, and then only a gap is before it. -/
def JudgesInPlace (p : Pattern) (t : Text) (offset : Nat) : Prop :=
  ∃ found v, Comment.locate? t offset = some found ∧ Verdict.of? p t offset found = some v ∧
    ∀ c afterGap, v = .mismatched c afterGap ↔
      afterGap = true ∧ found = some c ∧ ∃ inner, c.inner? t = some inner ∧ p.accepts inner = false

theorem Anatomy.Scanned.judgesInPlace {a : Anatomy} (h : a.Scanned) (p : Pattern) :
    JudgesInPlace p a.text (Text.width a.front) := by
  refine ⟨some a.span, _, h.locate?_eq, h.of?_eq p, ?_⟩
  intro c afterGap
  constructor
  · intro hv
    split at hv
    next => exact Verdict.noConfusion hv
    next hp =>
      obtain ⟨rfl, rfl⟩ := Verdict.mismatched.inj hv
      exact ⟨rfl, rfl, a.comment.body, h.inner?_eq, Bool.not_eq_true _ ▸ hp⟩
  · rintro ⟨rfl, hc, inner, hinner, hp⟩
    obtain rfl := Option.some.inj hc
    rw [h.inner?_eq] at hinner
    rw [Option.some.inj hinner, hp, if_neg Bool.false_ne_true]

theorem judgesInPlace (p : Pattern) (h : t.IsPlace offset) : JudgesInPlace p t offset := by
  obtain ⟨found, hfound⟩ := Option.isSome_iff_exists.mp (isSome_locate?_iff.mpr h)
  cases found with
  | none =>
      refine ⟨none, .missing, hfound, rfl, ?_⟩
      intro c afterGap
      simp
  | some c =>
      obtain ⟨a, ha, rfl, rfl, -⟩ := exists_scanned_of_locate? hfound
      exact ha.judgesInPlace p

end Scan

theorem isPlace_headerStart (t : Text) : t.IsPlace t.headerStart :=
  ⟨t.opening, t.afterOpening, t.opening_append.symm, rfl⟩

/-! ## The fix for a mismatched comment -/

section Fix

variable {r : Rule} {t template : Text} {c : Comment}

/-- A check reports a missing header at its place and offers to put one where
a comment stands, the one that a scan from that place finds.  Applied to the
text, the fix takes out the comment, and leaves what is before and behind it. -/
structure ReplacesInPlace (r : Rule) (t : Text) (c : Comment) (template : Text) : Prop where
  found : Comment.locate? t t.headerStart = some (some c)
  reported : r.check t =
    some (.at .missingHeader t.headerStart (some (replaceComment t c template)))
  nonempty : c.start < c.stop
  edited : ∃ before old after, t = before ++ old ++ after ∧ t.slice? c.start c.stop = some old ∧
    Text.width before = c.start ∧ (replaceComment t c template).edit? t =
      some (before ++ renderBlock template (LineEnding.detect t) 0 ++ after)

/-- A comment that is found mismatched is one in the place of the header that
the pattern rejects. -/
theorem exists_anatomy_of_mismatched {afterGap : Bool}
    (h : r.verdict? t = some (.mismatched c afterGap)) :
    ∃ a : Anatomy, a.Sound ∧ r.pattern.accepts a.comment.body = false ∧ t = a.text ∧
      c = a.span ∧ afterGap = true := by
  rcases r.verdict?_cases t with ⟨a, -, -, -, hv⟩ | ⟨a, ha, hp, ht, hv⟩ | ⟨front, rest, -, -, hv⟩
  · exact Verdict.noConfusion (Option.some.inj (h.symm.trans hv))
  · obtain ⟨rfl, rfl⟩ := Verdict.mismatched.inj (Option.some.inj (h.symm.trans hv))
    exact ⟨a, ha, hp, ht, rfl, rfl⟩
  · exact Verdict.noConfusion (Option.some.inj (h.symm.trans hv))

/-- No comment is empty: it begins with a mark of two characters. -/
theorem Anatomy.span_start_lt (a : Anatomy) : a.span.start < a.span.stop := by
  have hmark := a.comment.width_opener
  rw [span_start, span_stop, Written.text]
  simp only [Text.width_append, hmark]
  omega

theorem Anatomy.slice?_span (a : Anatomy) :
    a.text.slice? a.span.start a.span.stop = some a.comment.text := by
  rw [span_start, span_stop, text_eq]
  exact Text.slice?_width (a.front ++ a.gap) a.comment.text a.rest

theorem Anatomy.Sound.replacesInPlace {a : Anatomy} (h : a.Sound)
    (hp : r.pattern.accepts a.comment.body = false) (hτ : r.template = some template) :
    ReplacesInPlace r a.text a.span template where
  found := h.locate?_eq
  reported := by
    rw [check_mismatched h hp, hτ, Option.map_some, h.headerStart_eq]
  nonempty := a.span_start_lt
  edited :=
    ⟨a.front ++ a.gap, a.comment.text, a.rest, a.text_eq, a.slice?_span, a.span_start.symm,
      a.edit?_span _⟩

/-! ## The fix where nothing stands -/

theorem Bare.insertHeader?_eq {front rest : Text} (h : Bare front rest) (template : Text) :
    insertHeader? (front ++ rest) (front ++ rest).headerStart template =
      some (.insertion (Text.width front) (insertionLead front rest ++
        renderBlock template (LineEnding.detect (front ++ rest)) breaksAfterHeader)) := by
  rw [h.headerStart_eq, insertHeader?, Text.upTo?_width]
  rfl

/-- A check offers to insert a header at its place. -/
def Inserts (r : Rule) (t template : Text) : Prop :=
  ∃ f, insertHeader? t t.headerStart template = some f ∧
    r.check t = some (.at .missingHeader t.headerStart (some f))

theorem Bare.inserts {front rest : Text} (h : Bare front rest) (hτ : r.template = some template) :
    Inserts r (front ++ rest) template := by
  refine ⟨_, h.insertHeader?_eq template, ?_⟩
  rw [check_bare h, hτ, h.headerStart_eq]
  rfl

/-- Where a header is inserted, no comment stands: an insertion takes nothing
out of a text, and the fix for a rejected comment does. -/
theorem Inserts.locate?_eq (h : Inserts r t template) :
    Comment.locate? t t.headerStart = some none := by
  obtain ⟨f, hf, hcheck⟩ := h
  generalize hd : Diagnostic.at .missingHeader t.headerStart (some f) = d at hcheck
  cases reports_of_check hcheck with
  | unspaced => exact Finding.noConfusion (congrArg Diagnostic.finding hd)
  | @mismatched a =>
      obtain ⟨before, -, rfl⟩ := Option.map_eq_some_iff.mp hf
      obtain ⟨τ, -, hreplace⟩ := Option.map_eq_some_iff.mp (congrArg Diagnostic.fix hd).symm
      have hstart : a.span.start = a.text.headerStart := congrArg Fix.start hreplace
      have hstop : a.span.stop = a.text.headerStart := congrArg Fix.stop hreplace
      exact absurd a.span_start_lt (hstart.trans hstop.symm).not_lt
  | missing hb => exact hb.locate?_eq

/-- A header is inserted exactly where the scanner finds no comment. -/
theorem inserts_iff (hτ : r.template = some template) :
    Inserts r t template ↔ Comment.locate? t t.headerStart = some none := by
  constructor
  · exact Inserts.locate?_eq
  · intro hnone
    rcases exists_anatomy t with ⟨a, ha, rfl⟩ | ⟨front, rest, hb, rfl⟩
    · rw [ha.locate?_eq] at hnone
      cases hnone
    · exact hb.inserts hτ

end Fix

/-- **A mismatched comment always stands in the place of the header**, at
whatever place of the text the scan for it started, **and is replaced there.**
The fix for it is never a second header in front of the comment: a header is
inserted where there is no comment, and nowhere else. -/
theorem mismatch_in_place (t : Text) :
    (∀ p offset, t.IsPlace offset → JudgesInPlace p t offset) ∧ t.IsPlace t.headerStart ∧
      ∀ (r : Rule) (template : Text), r.template = some template →
        (∀ c afterGap, r.verdict? t = some (.mismatched c afterGap) →
          afterGap = true ∧ ReplacesInPlace r t c template) ∧
        (Inserts r t template ↔ Comment.locate? t t.headerStart = some none) := by
  refine ⟨fun p offset => judgesInPlace p, isPlace_headerStart t, ?_⟩
  intro r template hτ
  refine ⟨?_, inserts_iff hτ⟩
  intro c afterGap hv
  obtain ⟨a, ha, hp, rfl, rfl, rfl⟩ := exists_anatomy_of_mismatched hv
  exact ⟨rfl, ha.replacesInPlace hp hτ⟩

/-- A mark and a wide space before a comment behind an interpreter line: the
gap is six bytes long, from the place of the header, and a scan that starts
between its two characters comes to the same comment. -/
theorem mismatch_in_place_wideGap :
    let r := yearRule "2017".toList "(c) 2017".toList
    let t : Text := "#!/bin/sh\r\n\uFEFF\u3000// MIT\r\nfoo();".toList
    let c : Comment := ⟨.line, 17, 23⟩
    t.headerStart = 11 ∧ t.IsPlace 14 ∧ Comment.locate? t 14 = some (some c) ∧
      JudgesInPlace r.pattern t 14 ∧ r.verdict? t = some (.mismatched c true) ∧
      ReplacesInPlace r t c "(c) 2017".toList ∧ ¬ Inserts r t "(c) 2017".toList := by
  intro r t c
  have hplace : t.IsPlace 14 := by decide
  have hfound : Comment.locate? t 14 = some (some c) := by decide
  have hv : r.verdict? t = some (.mismatched c true) := by decide
  obtain ⟨hjudges, -, hfix⟩ := mismatch_in_place t
  obtain ⟨hreplaces, hinserts⟩ := hfix r "(c) 2017".toList rfl
  have hno : ¬ Comment.locate? t t.headerStart = some none := by decide
  exact ⟨by decide, hplace, hfound, hjudges r.pattern 14 hplace, hv, (hreplaces c true hv).2,
    hinserts.not.mpr hno⟩

end HeaderCheck
