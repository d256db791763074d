/-
# Slices of a concatenation

The stages of a check pass byte offsets to one another, and each offset is
the width of some beginning of the text.  Once a text is written as the
concatenation of its parts, every slice at such offsets is one of the parts
and every edit exchanges one of them: the lemmas here say so for `upTo?`,
`from?`, `slice?` and `edit?`, and nothing after them unfolds `cut?`.

The second section reads the two partial functions that strip a beginning
or an ending, and the search for a piece, as the relations of lists they
decide; the third says when a split of a text is the one at the end of its
longest run of some class of characters.
-/
import HeaderCheck.Diagnostic
import Mathlib.Data.List.Infix
import Mathlib.Data.List.TakeWhile

namespace HeaderCheck

namespace Text

/-! ## Offsets that are widths -/

theorem upTo?_width (s t : Text) : upTo? (s ++ t) (width s) = some s := by
  rw [upTo?, cut?_width]
  rfl

theorem from?_width (s t : Text) : from? (s ++ t) (width s) = some t := by
  rw [from?, cut?_width]
  rfl

theorem upTo?_eq_some_iff {t a : Text} {n : Nat} :
    upTo? t n = some a ↔ ∃ b, t = a ++ b ∧ width a = n := by
  simp only [upTo?, Option.map_eq_some_iff, Prod.exists, cut?_eq_some_iff]
  constructor
  · rintro ⟨a, b, h, rfl⟩
    exact ⟨b, h⟩
  · rintro ⟨b, h⟩
    exact ⟨a, b, h, rfl⟩

theorem from?_eq_some_iff {t b : Text} {n : Nat} :
    from? t n = some b ↔ ∃ a, t = a ++ b ∧ width a = n := by
  simp only [from?, Option.map_eq_some_iff, Prod.exists, cut?_eq_some_iff]
  constructor
  · rintro ⟨a, b, h, rfl⟩
    exact ⟨a, h⟩
  · rintro ⟨a, h⟩
    exact ⟨a, b, h, rfl⟩

/-- The middle part of a concatenation, addressed by the widths of the
parts. -/
theorem slice?_width (a b c : Text) :
    slice? (a ++ b ++ c) (width a) (width (a ++ b)) = some b := by
  have hle : width a ≤ width (a ++ b) := by
    rw [width_append]
    exact Nat.le_add_right _ _
  rw [slice?, if_pos hle, upTo?_width, Option.bind_some, from?_width]

/-- An edit of the middle part exchanges it. -/
theorem edit?_width (a b c new : Text) :
    Fix.edit? ⟨width a, width (a ++ b), new⟩ (a ++ b ++ c) = some (a ++ new ++ c) := by
  have hb : upTo? (a ++ b ++ c) (width a) = some a := by
    rw [List.append_assoc, upTo?_width]
  simp only [Fix.edit?, hb, from?_width]
  rfl

/-- An insertion takes nothing away. -/
theorem edit?_insertion (a c new : Text) :
    (Fix.insertion (width a) new).edit? (a ++ c) = some (a ++ new ++ c) := by
  simpa [Fix.insertion] using edit?_width a [] c new

/-! ## Beginnings, endings, pieces -/

theorem after?_eq_some_iff {s t r : Text} : after? s t = some r ↔ t = s ++ r := by
  induction s generalizing t with
  | nil => simp [after?, eq_comm]
  | cons c s ih =>
      cases t with
      | nil => simp [after?]
      | cons d t =>
          by_cases h : c = d
          · subst h
            simp [after?, ih]
          · simp [after?, h, Ne.symm h]

theorem before?_eq_some_iff {t ending r : Text} :
    before? t ending = some r ↔ t = r ++ ending := by
  simp only [before?, Option.map_eq_some_iff, after?_eq_some_iff]
  constructor
  · rintro ⟨u, hu, rfl⟩
    rw [← List.reverse_reverse t, hu, List.reverse_append, List.reverse_reverse]
  · rintro rfl
    exact ⟨r.reverse, List.reverse_append, List.reverse_reverse r⟩

theorem before?_append (r ending : Text) : before? (r ++ ending) ending = some r :=
  before?_eq_some_iff.mpr rfl

/-- A text that does not end so keeps its whole length. -/
theorem before?_getD_of_not_suffix {t ending : Text} (h : ¬ ending <:+ t) :
    (before? t ending).getD t = t := by
  cases hb : before? t ending with
  | none => rfl
  | some r => exact absurd ⟨r, (before?_eq_some_iff.mp hb).symm⟩ h

/-- What is left when an ending is dropped where there is one. -/
theorem prefix_before?_getD (t ending : Text) : (before? t ending).getD t <+: t := by
  cases hb : before? t ending with
  | none => exact List.prefix_rfl
  | some r => exact ⟨ending, (before?_eq_some_iff.mp hb).symm⟩

theorem includes_eq_true_iff {piece t : Text} : includes piece t = true ↔ piece <:+: t := by
  induction t with
  | nil => simp [includes]
  | cons c t ih =>
      rw [includes, Bool.or_eq_true, List.isPrefixOf_iff_prefix, ih, List.infix_cons_iff]

theorem not_infix_of_includes {piece t : Text} (h : includes piece t = false) :
    ¬ piece <:+: t := by
  intro hp
  rw [includes_eq_true_iff.mpr hp] at h
  exact Bool.noConfusion h

/-! ## The longest run -/

theorem takeWhile_eq_of_boundary {p : Char → Bool} {a b : Text} (ha : ∀ c ∈ a, p c = true)
    (hb : ∀ c ∈ b.head?, p c = false) : (a ++ b).takeWhile p = a := by
  rw [List.takeWhile_append_of_pos ha]
  cases b with
  | nil => simp
  | cons c b => rw [List.takeWhile_cons_of_neg (by simp [hb c rfl]), List.append_nil]

theorem dropWhile_eq_of_boundary {p : Char → Bool} {a b : Text} (ha : ∀ c ∈ a, p c = true)
    (hb : ∀ c ∈ b.head?, p c = false) : (a ++ b).dropWhile p = b := by
  rw [List.dropWhile_append_of_pos ha]
  cases b with
  | nil => rfl
  | cons c b => rw [List.dropWhile_cons_of_neg (by simp [hb c rfl])]

theorem dropWhile_boundary (p : Char → Bool) (t : Text) :
    ∀ c ∈ (t.dropWhile p).head?, p c = false := by
  intro c hc
  have h := List.head?_dropWhile_not p t
  rw [Option.mem_def.mp hc] at h
  exact h

end Text

end HeaderCheck
