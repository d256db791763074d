/-
# Line endings under edits

A fix writes in the convention that it reads off the text, and the next
pass reads the convention off the text so fixed.  Hence the question of this
file: what decides the convention of a concatenation?  Its first part, if
that has a line feed, and otherwise its second part, provided the second
part does not begin with the line feed: there a carriage return at the end
of the first part would join it.

The blank line after a header is counted in line breaks of either
convention, so the second section counts the breaks of a text that has had
some put in front of it.
-/
import HeaderCheck.Template

namespace HeaderCheck

namespace LineEnding

/-! ## The convention of a concatenation -/

theorem detect_append_of_mem {s : Text} (h : '\n' ∈ s) (t : Text) : detect (s ++ t) = detect s := by
  fun_induction detect s with
  | case1 => exact absurd h List.not_mem_nil
  | case2 s => rfl
  | case3 s => rfl
  | case4 c s hfeed hpair ih =>
      have hs : '\n' ∈ s := (List.mem_cons.mp h).resolve_left (fun e => hfeed e.symm)
      -- the first character joins no line feed of the second part, as `s` is not empty
      have hpair' : ∀ u, c = '\r' → s ++ t = '\n' :: u → False := by
        intro u hc hu
        cases s with
        | nil => exact List.not_mem_nil hs
        | cons d s =>
            obtain rfl : d = '\n' := (List.cons.inj hu).1
            exact hpair s hc rfl
      rw [List.cons_append, detect.eq_4 _ _ hfeed hpair', ih hs]

theorem detect_append_of_not_mem {s t : Text} (hs : '\n' ∉ s) (ht : t.head? ≠ some '\n') :
    detect (s ++ t) = detect t := by
  induction s with
  | nil => rfl
  | cons c s ih =>
      obtain ⟨hc, hs⟩ := not_or.mp (mt List.mem_cons.mpr hs)
      have hpair : ∀ u, c = '\r' → s ++ t = '\n' :: u → False := by
        intro u _ hu
        cases s with
        | nil => exact ht (congrArg List.head? hu)
        | cons d s => exact hs (List.mem_cons.mpr (Or.inl (List.cons.inj hu).1.symm))
      rw [List.cons_append, detect.eq_4 _ _ (Ne.symm hc) hpair, ih hs]

theorem detect_of_not_mem {s : Text} (hs : '\n' ∉ s) : detect s = lf := by
  have h := detect_append_of_not_mem hs (t := []) (by simp)
  rw [List.append_nil] at h
  exact h

/-- What is written in a convention is read in it, if its first line break
is one of the convention. -/
theorem detect_slash_mark (ending : LineEnding) (t : Text) :
    detect ('/' :: '*' :: (ending.mark ++ t)) = ending := by
  cases ending <;> rfl

/-- A part that is written in the convention of the whole text, in place of
the end of the text, leaves the convention what it was. -/
theorem detect_replace (s old new : Text) :
    detect (s ++ '/' :: '*' :: ((detect (s ++ old)).mark ++ new)) = detect (s ++ old) := by
  by_cases hs : '\n' ∈ s
  · rw [detect_append_of_mem hs, detect_append_of_mem hs]
  · rw [detect_append_of_not_mem hs (by simp), detect_slash_mark]

theorem head?_mark_ne_slash (ending : LineEnding) (t : Text) :
    (ending.mark ++ t).head? ≠ some '/' := by
  cases ending <;> simp [mark]

end LineEnding

/-! ## Counting line breaks -/

namespace Text

theorem times_zero (t : Text) : t.times 0 = [] := rfl

theorem times_succ (t : Text) (n : Nat) : t.times (n + 1) = t ++ t.times n := by
  rw [times, List.replicate_succ, List.flatten_cons, times]

theorem afterBreak?_mark (ending : LineEnding) (t : Text) :
    (ending.mark ++ t).afterBreak? = some t := by
  cases ending <;> rfl

/-- Line breaks put in front of a text are counted first. -/
theorem leadingBreaks_times (ending : LineEnding) (k n : Nat) (t : Text) :
    (ending.mark.times k ++ t).leadingBreaks (k + n) = k + t.leadingBreaks n := by
  induction k with
  | zero => rw [times_zero, List.nil_append, Nat.zero_add, Nat.zero_add]
  | succ k ih =>
      rw [times_succ, List.append_assoc, Nat.add_right_comm, leadingBreaks, afterBreak?_mark]
      show (ending.mark.times k ++ t).leadingBreaks (k + n) + 1 = _
      rw [ih]
      omega

theorem leadingBreaks_le (n : Nat) (t : Text) : t.leadingBreaks n ≤ n := by
  induction n generalizing t with
  | zero => exact Nat.le_refl 0
  | succ n ih =>
      rw [leadingBreaks]
      split
      · exact Nat.succ_le_succ (ih _)
      · exact Nat.zero_le _

/-- A count that stopped early does not change with its bound. -/
theorem leadingBreaks_leadingBreaks (n : Nat) (t : Text) :
    t.leadingBreaks (t.leadingBreaks n) = t.leadingBreaks n := by
  induction n generalizing t with
  | zero => rfl
  | succ n ih =>
      cases h : t.afterBreak? with
      | none => simp [leadingBreaks, h]
      | some r => simp [leadingBreaks, h, ih]

/-- As many line breaks as are missing make the count full. -/
theorem leadingBreaks_missing (ending : LineEnding) (n : Nat) (t : Text) :
    (ending.mark.times (n - t.leadingBreaks n) ++ t).leadingBreaks n = n := by
  have hle := leadingBreaks_le n t
  have h := leadingBreaks_times ending (n - t.leadingBreaks n) (t.leadingBreaks n) t
  rw [leadingBreaks_leadingBreaks, Nat.sub_add_cancel hle] at h
  exact h

/-! ## Texts that are nothing but line breaks -/

/-- A sequence of line endings, in whatever conventions. -/
def IsBreaks (t : Text) : Prop :=
  ∃ endings : List LineEnding, t = endings.flatMap LineEnding.mark

namespace IsBreaks

theorem nil : IsBreaks [] :=
  ⟨[], rfl⟩

theorem mark (ending : LineEnding) : IsBreaks ending.mark :=
  ⟨[ending], by rw [List.flatMap_singleton]⟩

theorem append {s t : Text} (hs : IsBreaks s) (ht : IsBreaks t) : IsBreaks (s ++ t) := by
  obtain ⟨as, rfl⟩ := hs
  obtain ⟨bs, rfl⟩ := ht
  exact ⟨as ++ bs, List.flatMap_append.symm⟩

theorem times (ending : LineEnding) (n : Nat) : IsBreaks (ending.mark.times n) := by
  induction n with
  | zero => exact nil
  | succ n ih =>
      rw [times_succ]
      exact (mark ending).append ih

end IsBreaks

end Text

end HeaderCheck
