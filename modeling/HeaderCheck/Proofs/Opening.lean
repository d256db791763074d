/-
# What an opening is, and when it stays

The opening of a text is a byte-order mark and an interpreter line, each of
them optional.  `IsMark` and `IsInterpreter` say so by what the two are and
what may follow them, and `opening_eq` that the functions of the library
find exactly that: the split of a text into an opening and a rest is unique.

An edit leaves the opening alone as long as the rest still cannot be taken
for a part of it (`IsFront.keep`).  The one opening that an edit does change
is an interpreter line without a line feed: it is the whole text, and the
line break that an inserted header brings becomes its last character
(`IsFront.endLine`).
-/
import HeaderCheck.Opening
import Mathlib.Data.List.Infix

namespace HeaderCheck

namespace Text

/-- A byte-order mark, or nothing before a text that has none. -/
inductive IsMark : Text → Text → Prop
  | absent {rest : Text} : rest.head? ≠ some byteOrderMark → IsMark [] rest
  | present {rest : Text} : IsMark [byteOrderMark] rest

/-- A line that names an interpreter, with its line feed or at the end of
the text, or nothing before a text that does not begin with one. -/
inductive IsInterpreter : Text → Text → Prop
  | absent {rest : Text} : ¬ ['#', '!'] <+: rest → IsInterpreter [] rest
  | ended {line rest : Text} : '\n' ∉ line → IsInterpreter ('#' :: '!' :: line ++ ['\n']) rest
  | unended {line : Text} : '\n' ∉ line → IsInterpreter ('#' :: '!' :: line) []

/-! ## The functions find the opening -/

theorem splitMark_eq {mark rest : Text} (h : IsMark mark rest) :
    splitMark (mark ++ rest) = (mark, rest) := by
  cases h with
  | present => rfl
  | absent h =>
      cases rest with
      | nil => rfl
      | cons c rest =>
          have hc : c ≠ byteOrderMark := fun hc => h (congrArg some hc)
          rw [List.nil_append, splitMark, if_neg hc]

theorem isMark_splitMark (t : Text) : IsMark t.splitMark.1 t.splitMark.2 := by
  cases t with
  | nil => exact .absent (by simp [splitMark])
  | cons c t =>
      by_cases h : c = byteOrderMark
      · subst h
        exact .present
      · rw [splitMark, if_neg h]
        exact .absent (by simpa using h)

theorem splitLine_ended {line rest : Text} (h : '\n' ∉ line) :
    splitLine (line ++ '\n' :: rest) = (line ++ ['\n'], rest) := by
  induction line with
  | nil => rfl
  | cons c line ih =>
      obtain ⟨hc, hl⟩ := not_or.mp (mt List.mem_cons.mpr h)
      rw [List.cons_append, splitLine, if_neg (Ne.symm hc), ih hl]
      rfl

theorem splitLine_unended {line : Text} (h : '\n' ∉ line) : splitLine line = (line, []) := by
  induction line with
  | nil => rfl
  | cons c line ih =>
      obtain ⟨hc, hl⟩ := not_or.mp (mt List.mem_cons.mpr h)
      rw [splitLine, if_neg (Ne.symm hc), ih hl]

theorem splitInterpreter_eq {line rest : Text} (h : IsInterpreter line rest) :
    splitInterpreter (line ++ rest) = (line, rest) := by
  cases h with
  | absent h =>
      rw [List.nil_append]
      unfold splitInterpreter
      split
      · exact absurd ⟨_, rfl⟩ h
      · rfl
  | @ended line rest h =>
      have ht : '#' :: '!' :: line ++ ['\n'] ++ rest = '#' :: '!' :: (line ++ '\n' :: rest) := by
        simp
      rw [ht, splitInterpreter, splitLine_ended h]
      rfl
  | @unended line h => rw [List.append_nil, splitInterpreter, splitLine_unended h]

theorem isInterpreter_splitInterpreter (t : Text) :
    IsInterpreter t.splitInterpreter.1 t.splitInterpreter.2 := by
  unfold splitInterpreter
  split
  next u =>
    by_cases hu : '\n' ∈ u
    · obtain ⟨line, rest, rfl, hl⟩ := List.eq_append_cons_of_mem hu
      rw [splitLine_ended hl]
      exact .ended hl
    · rw [splitLine_unended hu]
      exact .unended hu
  next hno =>
    refine .absent ?_
    rintro ⟨u, rfl⟩
    exact hno u rfl

section Opening

variable {mark line rest : Text}

/-- The opening of a text, told by its two parts. -/
theorem opening_eq (hm : IsMark mark (line ++ rest)) (hi : IsInterpreter line rest) :
    opening (mark ++ (line ++ rest)) = mark ++ line := by
  rw [opening, splitMark_eq hm, splitInterpreter_eq hi]

theorem afterOpening_eq (hm : IsMark mark (line ++ rest)) (hi : IsInterpreter line rest) :
    afterOpening (mark ++ (line ++ rest)) = rest := by
  rw [afterOpening, splitMark_eq hm, splitInterpreter_eq hi]

end Opening

/-! ## Openings under edits -/

/-- A text that stands in front of a header, before a given rest. -/
def IsFront (front rest : Text) : Prop :=
  ∃ mark line, front = mark ++ line ∧ IsMark mark (line ++ rest) ∧ IsInterpreter line rest

theorem isFront_opening (t : Text) : IsFront t.opening t.afterOpening := by
  refine ⟨t.splitMark.1, t.splitMark.2.splitInterpreter.1, rfl, ?_,
    isInterpreter_splitInterpreter t.splitMark.2⟩
  rw [afterOpening, splitInterpreter_append]
  exact isMark_splitMark t

namespace IsFront

variable {front rest : Text}

theorem opening_eq (h : IsFront front rest) : opening (front ++ rest) = front := by
  obtain ⟨mark, line, rfl, hm, hi⟩ := h
  rw [List.append_assoc, Text.opening_eq hm hi]

end IsFront

/-- An opening stops in the middle of a line only if it is a whole text
that ends with an interpreter line. -/
theorem hasOpenLine_iff {mark line rest : Text} (hm : IsMark mark (line ++ rest))
    (hi : IsInterpreter line rest) :
    (mark ++ line).hasOpenLine = true ↔ line ≠ [] ∧ '\n' ∉ line ∧ rest = [] := by
  have hmark : IsMark mark line := by
    cases hm with
    | present => exact .present
    | absent hm =>
        refine .absent fun hl => hm ?_
        rw [List.head?_append, hl, Option.some_or]
  rw [hasOpenLine, splitMark_eq hmark]
  cases hi with
  | absent => simp
  | ended =>
      rw [List.getLast?_concat]
      simp
  | @unended line hn =>
      have hlast := List.getLast?_eq_some_getLast (List.cons_ne_nil '#' ('!' :: line))
      have hmem := List.getLast_mem (List.cons_ne_nil '#' ('!' :: line))
      have hne : '\n' ∉ '#' :: '!' :: line := by simpa using hn
      rw [hlast]
      simp only [ne_eq, reduceCtorEq, not_false_eq_true, hne, and_self, iff_true,
        decide_eq_true_eq]
      intro hc
      exact hne (hc ▸ hmem)

/-- A gap and a slash after it are no part of an opening. -/
theorem not_interpreter_gap {gap rest : Text} (hg : ∀ c ∈ gap, isGap c = true) :
    ¬ ['#', '!'] <+: gap ++ '/' :: rest := by
  rintro ⟨u, hu⟩
  cases gap with
  | nil => simp at hu
  | cons c gap =>
      obtain rfl : '#' = c := (List.cons.inj hu).1
      exact absurd (hg '#' List.mem_cons_self) (by decide)

namespace IsFront

variable {front gap rest : Text}

/-- A front that does not stop in the middle of a line stays the front when
what follows its gap is replaced by something that begins with a slash. -/
theorem keep (h : IsFront front (gap ++ rest)) (hg : ∀ c ∈ gap, isGap c = true)
    (hl : front.hasOpenLine = false) (new : Text) : IsFront front (gap ++ '/' :: new) := by
  obtain ⟨mark, line, rfl, hm, hi⟩ := h
  have hclosed := (hasOpenLine_iff hm hi).not.mp (by rw [hl]; exact Bool.false_ne_true)
  generalize hr : gap ++ rest = r at hm hi hclosed
  cases hi with
  | absent =>
      refine ⟨mark, [], rfl, ?_, .absent (not_interpreter_gap hg)⟩
      cases hm with
      | present => exact .present
      | absent hm =>
          refine .absent ?_
          cases gap with
          | nil => simp [byteOrderMark]
          | cons c gap =>
              subst hr
              exact hm
  | ended hn =>
      refine ⟨mark, _, rfl, ?_, .ended hn⟩
      cases hm with
      | present => exact .present
      | absent hm => exact .absent hm
  | unended hn => exact absurd ⟨List.cons_ne_nil _ _, by simpa using hn, rfl⟩ hclosed

/-- A front that stops in the middle of a line is a whole text without a
line feed, and a line feed after it belongs to the front. -/
theorem endLine (h : IsFront front rest) (hl : front.hasOpenLine = true) :
    rest = [] ∧ '\n' ∉ front ∧ ∀ new, IsFront (front ++ ['\n']) new := by
  obtain ⟨mark, line, rfl, hm, hi⟩ := h
  obtain ⟨hne, hnl, rfl⟩ := (hasOpenLine_iff hm hi).mp hl
  cases hi with
  | absent => exact absurd rfl hne
  | ended => exact absurd (by simp) hnl
  | unended hn =>
      refine ⟨rfl, ?_, fun new => ⟨mark, _, List.append_assoc .., ?_, .ended hn⟩⟩
      · cases hm with
        | present => simpa [byteOrderMark] using hn
        | absent => exact hnl
      · cases hm with
        | present => exact .present
        | absent hm => exact .absent hm

end IsFront

end Text

end HeaderCheck
