/-
# The order of paths

Paths compare by their components, and lists of components and texts
compare item by item.  That is the lexicographic order of the library
(`Component.compareAll_eq`, `Text.compare_eq`), so its laws are those of
comparing two components, and these are a matter of the four kinds.

Files are found in this order (`discover_increasing`): the sort puts paths
that mean the same next to each other, and of such neighbours all but the
first are dropped.  Hence no two of the files found mean the same.
-/
import HeaderCheck.Discovery
import HeaderCheck.Proofs.Steps

namespace HeaderCheck

/-! ## Texts and components -/

/-- Texts compare by the code points of their characters. -/
theorem Text.compare_eq : Text.compare = List.compareLex (compareOn Char.toNat) := by
  funext s t
  induction s generalizing t with
  | nil => cases t <;> rfl
  | cons c s ih =>
      cases t with
      | nil => rfl
      | cons d t =>
          rw [compare, List.compareLex_cons_cons, ih, compareOn, Nat.compare_eq_ite_lt]
          split
          · rfl
          · split <;> rfl

instance : Std.TransCmp Text.compare := by
  rw [Text.compare_eq]
  infer_instance

instance : Std.LawfulEqCmp Text.compare := by
  have hchar : Std.LawfulEqCmp (compareOn Char.toNat) :=
    { eq_of_compare := fun h => Char.toNat_inj.mp (Nat.compare_eq_eq.mp h) }
  rw [Text.compare_eq]
  infer_instance

namespace Component

theorem compare_name (a b : Text) : compare (name a) (name b) = a.compare b := rfl

instance : Std.TransCmp compare where
  eq_swap {a b} := by
    cases a <;> cases b <;> first | rfl | rw [compare_name, compare_name]
    exact Std.OrientedCmp.eq_swap
  isLE_trans {a b c} hab hbc := by
    cases a <;> cases b <;> cases c <;> first | rfl | contradiction | skip
    rw [compare_name] at hab hbc ⊢
    exact Std.TransCmp.isLE_trans hab hbc

instance : Std.LawfulEqCmp compare where
  compare_self {a} := by
    cases a with
    | name n =>
        rw [compare_name]
        exact Std.ReflCmp.compare_self
    | _ => rfl
  eq_of_compare {a b} h := by
    cases a <;> cases b <;> first | rfl | contradiction | rw [compare_name] at h
    rw [Std.LawfulEqCmp.eq_of_compare h]

theorem compareAll_eq : compareAll = List.compareLex compare := by
  funext s t
  induction s generalizing t with
  | nil => cases t <;> rfl
  | cons a s ih =>
      cases t with
      | nil => rfl
      | cons b t =>
          rw [compareAll, List.compareLex_cons_cons, ih]
          cases compare a b <;> rfl

instance : Std.TransCmp compareAll := by
  rw [compareAll_eq]
  infer_instance

instance : Std.LawfulEqCmp compareAll := by
  rw [compareAll_eq]
  infer_instance

end Component

/-! ## Paths -/

namespace Path

variable {p q r : Path}

/-- One path comes before another one. -/
def Before (p q : Path) : Prop :=
  p.compare q = .lt

theorem compare_def (p q : Path) :
    p.compare q = Component.compareAll p.components q.components := rfl

instance : Std.TransCmp Path.compare where
  eq_swap := by
    intro p q
    rw [compare_def, compare_def]
    exact Std.OrientedCmp.eq_swap
  isLE_trans := by
    intro p q r hpq hqr
    rw [compare_def] at *
    exact Std.TransCmp.isLE_trans hpq hqr

theorem compare_eq_iff : p.compare q = .eq ↔ p.same q = true := by
  rw [same, decide_eq_true_eq, compare_def, Std.LawfulEqCmp.compare_eq_iff_eq]

theorem same_trans (hpq : p.same q = true) (hqr : q.same r = true) : p.same r = true := by
  simp only [same, decide_eq_true_eq] at *
  exact hpq.trans hqr

theorem le_iff : p.le q = true ↔ (p.compare q).isLE = true := by
  rw [le, decide_eq_true_eq, Ordering.isLE_iff_ne_gt]

theorem le_trans (hpq : p.le q = true) (hqr : q.le r = true) : p.le r = true := by
  rw [le_iff] at *
  exact Std.TransCmp.isLE_trans hpq hqr

theorem le_total (p q : Path) : (p.le q || q.le p) = true := by
  have hswap : p.compare q = (q.compare p).swap := Std.OrientedCmp.eq_swap
  rw [Bool.or_eq_true, le_iff, le_iff, hswap]
  cases q.compare p <;> simp

theorem before_of_le (h : p.le q = true) (hne : p.same q = false) : p.Before q := by
  have hle : p.compare q ≠ .gt := by simpa [le] using h
  have heq : p.compare q ≠ .eq := by rw [ne_eq, compare_eq_iff, hne]; decide
  rw [Before]
  cases hc : p.compare q with
  | lt => rfl
  | eq => exact absurd hc heq
  | gt => exact absurd hc hle

theorem Before.trans (hpq : p.Before q) (hqr : q.Before r) : p.Before r := by
  rw [Before] at *
  exact Std.TransCmp.lt_trans hpq hqr

theorem Before.same_eq (h : p.Before q) : p.same q = false := by
  rw [← Bool.not_eq_true, ← compare_eq_iff, h]
  decide

end Path

/-! ## The files found -/

namespace FileTree

variable {ps files : List Path}

/-- What is kept of a sorted list comes behind the path before it, and is
strictly sorted: a path that is not the same as the one before it comes
behind that. -/
theorem pairwise_dropRepeats (previous : Option Path)
    (h : (previous.toList ++ ps).Pairwise fun p q => p.le q = true) :
    (previous.toList ++ dropRepeats previous ps).Pairwise Path.Before := by
  induction ps generalizing previous with
  | nil =>
      rw [dropRepeats, List.append_nil]
      cases previous <;> simp
  | cons p ps ih =>
      have hps : (p :: ps).Pairwise fun p q => p.le q = true :=
        (List.pairwise_append.mp h).2.1
      rw [dropRepeats]
      cases previous with
      | none =>
          rw [Option.any_none, if_neg Bool.false_ne_true]
          exact ih (some p) hps
      | some q =>
          rw [Option.any_some]
          split
          next => exact ih (some q) (h.sublist ((List.sublist_cons_self p ps).cons_cons q))
          next hne =>
            have hle : q.le p = true := (List.pairwise_cons.mp h).1 p List.mem_cons_self
            have hqp : q.Before p := Path.before_of_le hle (Bool.not_eq_true _ ▸ hne)
            have hrest : (p :: dropRepeats (some p) ps).Pairwise Path.Before := ih (some p) hps
            refine List.pairwise_cons.mpr ⟨fun r hr => ?_, hrest⟩
            rcases List.mem_cons.mp hr with rfl | hr
            · exact hqp
            · exact hqp.trans ((List.pairwise_cons.mp hrest).1 r hr)

/-- Files are found in strictly increasing order. -/
theorem discover_increasing {t : FileTree} {sel : Selection}
    (h : t.discover sel ps = .ok files) : files.Pairwise Path.Before := by
  obtain ⟨found, -, h⟩ := bind_eq_ok_iff.mp h
  obtain rfl := Except.ok.inj h
  have hsorted : (found.flatten.mergeSort Path.le).Pairwise fun p q => p.le q = true :=
    @List.pairwise_mergeSort _ Path.le (fun _ _ _ => Path.le_trans) Path.le_total _
  exact pairwise_dropRepeats none hsorted

end FileTree

end HeaderCheck
