/-
# The order in which paths are named

Files are found in the order of their paths, and of those that mean the same
one stays.  So the list of the files is told by the components that occur in
it (`forall₂_same`): two strictly sorted lists with the same members are
equal.  Which components occur is told by the set of the named paths
(`mem_components_discover`), because what is found at one of them does not
depend on the others.  Whether one of them is missing does not either.

Hence neither the order of the named paths nor how often one is named makes
any difference, except for the spelling that stays (`discover_congr`).
-/
import HeaderCheck.Proofs.Discovery

namespace HeaderCheck

/-! ## Sorted lists of paths -/

namespace Path

variable {ps qs : List Path}

/-- Lists of components come one behind the other. -/
def Ascends (a b : List Component) : Prop :=
  Component.compareAll a b = .lt

theorem Ascends.asymm {a b : List Component} (h : Ascends a b) : ¬ Ascends b a :=
  Std.OrientedCmp.not_lt_of_lt h

theorem pairwise_ascends (h : ps.Pairwise Before) : (ps.map components).Pairwise Ascends :=
  List.pairwise_map.mpr h

theorem nodup_components (h : ps.Pairwise Before) : (ps.map components).Nodup := by
  refine (pairwise_ascends h).imp fun {a b} hab heq => ?_
  subst heq
  exact hab.asymm hab

/-- Strictly sorted paths with the same components are the same, one by
one. -/
theorem forall₂_same (hp : ps.Pairwise Before) (hq : qs.Pairwise Before)
    (h : ∀ c, c ∈ ps.map components ↔ c ∈ qs.map components) :
    List.Forall₂ (fun p q => p.same q = true) ps qs := by
  have hperm : (ps.map components).Perm (qs.map components) :=
    (List.perm_ext_iff_of_nodup (nodup_components hp) (nodup_components hq)).mpr h
  have heq : ps.map components = qs.map components := by
    refine hperm.eq_of_pairwise ?_ (pairwise_ascends hp) (pairwise_ascends hq)
    exact fun a b _ _ hab hba => absurd hba hab.asymm
  have hsame : List.Forall₂ (· = ·) (ps.map components) (qs.map components) := by
    rw [List.forall₂_eq_eq_eq]
    exact heq
  rw [List.forall₂_map_left_iff, List.forall₂_map_right_iff] at hsame
  exact hsame.imp fun p q hpq => decide_eq_true hpq

end Path

/-! ## Discovery -/

namespace FileTree

variable {t : FileTree} {s : Selection} {ps qs fs : List Path}

/-- The components that occur are those of what is found at the named
paths. -/
theorem mem_components_discover (h : t.discover s ps = .ok fs) (c : List Component) :
    c ∈ fs.map Path.components ↔
      ∃ p ∈ ps, ∃ gs, t.filesAt s p = .ok gs ∧ c ∈ gs.map Path.components := by
  obtain ⟨found, hfound, h⟩ := bind_eq_ok_iff.mp h
  obtain rfl := Except.ok.inj h
  constructor
  · intro hc
    obtain ⟨g, hg, rfl⟩ := List.mem_map.mp hc
    have hmem := List.mem_mergeSort.mp (dropRepeats_subset none hg)
    obtain ⟨p, hp, gs, hgs, hg⟩ := (mem_flatten_of_mapM hfound g).mp hmem
    exact ⟨p, hp, gs, hgs, List.mem_map_of_mem hg⟩
  · rintro ⟨p, hp, gs, hgs, hc⟩
    obtain ⟨g, hg, rfl⟩ := List.mem_map.mp hc
    have hmem := (mem_flatten_of_mapM hfound g).mpr ⟨p, hp, gs, hgs, hg⟩
    have hsorted : g ∈ found.flatten.mergeSort Path.le := List.mem_mergeSort.mpr hmem
    obtain ⟨f, hf, hsame⟩ := exists_same_dropRepeats none hsorted
    exact List.mem_map.mpr ⟨f, hf, of_decide_eq_true hsame⟩

/-- Discovery succeeds exactly if each of the named paths is there. -/
theorem exists_discover_iff :
    (∃ fs, t.discover s ps = .ok fs) ↔ ∀ p ∈ ps, ∃ gs, t.filesAt s p = .ok gs := by
  constructor
  · rintro ⟨fs, h⟩ p hp
    obtain ⟨found, hfound, -⟩ := bind_eq_ok_iff.mp h
    exact exists_of_mapM_eq_ok hfound hp
  · intro h
    obtain ⟨found, hfound⟩ := exists_mapM_eq_ok h
    exact ⟨_, by rw [discover, hfound]; rfl⟩

/-- **What is found depends on which paths are named only**, not on their
order or on how often each of them is.  It is strictly sorted, so that no two
of the files mean the same path. -/
theorem discover_congr (t : FileTree) (s : Selection) (h : ∀ p, p ∈ ps ↔ p ∈ qs) :
    ((∃ e e', t.discover s ps = .error e ∧ t.discover s qs = .error e' ∧
          e.kind = .io ∧ e'.kind = .io) ∨
        ∃ fs gs, t.discover s ps = .ok fs ∧ t.discover s qs = .ok gs ∧ fs.length = gs.length ∧
          List.Forall₂ (fun f g => f.same g = true) fs gs) ∧
      ∀ fs, t.discover s ps = .ok fs →
        fs.Pairwise Path.Before ∧ fs.Pairwise fun f g => f.same g = false := by
  refine ⟨?_, fun fs hfs => ?_⟩
  · have hiff : (∃ fs, t.discover s ps = .ok fs) ↔ ∃ gs, t.discover s qs = .ok gs := by
      simp only [exists_discover_iff, h]
    cases hps : t.discover s ps with
    | error e =>
        cases hqs : t.discover s qs with
        | error e' => exact Or.inl ⟨e, e', rfl, rfl, kind_of_discover hps, kind_of_discover hqs⟩
        | ok gs =>
            obtain ⟨fs, hfs⟩ := hiff.mpr ⟨gs, hqs⟩
            rw [hps] at hfs
            cases hfs
    | ok fs =>
        obtain ⟨gs, hgs⟩ := hiff.mp ⟨fs, hps⟩
        have hsame : List.Forall₂ (fun f g => f.same g = true) fs gs := by
          refine Path.forall₂_same (discover_increasing hps) (discover_increasing hgs) fun c => ?_
          simp only [mem_components_discover hps, mem_components_discover hgs, h]
        exact Or.inr ⟨fs, gs, rfl, hgs, hsame.length_eq, hsame⟩
  · have hsorted := discover_increasing hfs
    exact ⟨hsorted, hsorted.imp Path.Before.same_eq⟩

/-- A file is named behind the directory that it is found in, or before it
when that is named twice. -/
theorem discover_congr_nested :
    let s := { nestedSelection with exclude := [] }
    let ps := [⟨"src".toList⟩, ⟨"src/gen/b.rs".toList⟩]
    let qs := [⟨"src/gen/b.rs".toList⟩, ⟨"src".toList⟩, ⟨"src".toList⟩]
    (∀ p, p ∈ ps ↔ p ∈ qs) ∧
      ∃ fs gs, nested.discover s ps = .ok fs ∧ nested.discover s qs = .ok gs ∧
        List.Forall₂ (fun f g => f.same g = true) fs gs ∧
        fs.Pairwise fun f g => f.same g = false := by
  intro s ps qs
  have h : ∀ p, p ∈ ps ↔ p ∈ qs := by
    intro p
    simp only [ps, qs, List.mem_cons, List.not_mem_nil, or_false, or_self]
    exact or_comm
  obtain ⟨fs, hfs⟩ : ∃ fs, nested.discover s ps = .ok fs := by
    refine exists_discover_iff.mpr fun p hp => ?_
    rcases List.mem_pair.mp hp with rfl | rfl
    · exact ⟨_, by rw [filesAt, resolve_nested.1]⟩
    · exact ⟨_, by rw [filesAt, resolve_nested.2]⟩
  obtain ⟨⟨e, -, herror, -⟩ | ⟨fs', gs, hfs', hgs, -, hsame⟩, hsorted⟩ := discover_congr nested s h
  · rw [hfs] at herror
    cases herror
  · exact ⟨h, fs', gs, hfs', hgs, hsame, (hsorted fs' hfs').2⟩

end FileTree

end HeaderCheck
