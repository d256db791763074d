/-
# Steps that may fail

The commands are sequences of steps each of which may fail.  One that went
well went well in each step, and one that failed did so in its first failing
step: the proofs take runs apart by these lemmas instead of following the
code.
-/
namespace HeaderCheck

variable {ε ε' α β : Type} {f : α → Except ε β} {check : α → Except ε Unit} {xs : List α}
  {x : Except ε α} {a : α} {b : β} {e : ε}

theorem mapError_eq_ok_iff {g : ε → ε'} : x.mapError g = .ok a ↔ x = .ok a := by
  cases x with
  | error e =>
      show Except.error (g e) = .ok a ↔ _
      exact iff_of_false nofun nofun
  | ok b =>
      show (Except.ok b : Except ε' α) = .ok a ↔ _
      rw [Except.ok.injEq, Except.ok.injEq]

theorem mapError_eq_error_iff {g : ε → ε'} {e' : ε'} :
    x.mapError g = .error e' ↔ ∃ e, x = .error e ∧ g e = e' := by
  cases x with
  | error e =>
      show Except.error (g e) = .error e' ↔ _
      simp
  | ok a => exact iff_of_false nofun nofun

theorem bind_eq_ok_iff : x >>= f = .ok b ↔ ∃ a, x = .ok a ∧ f a = .ok b := by
  cases x with
  | error e => exact iff_of_false nofun nofun
  | ok a =>
      refine ⟨fun h => ⟨a, rfl, h⟩, ?_⟩
      rintro ⟨a', ha, h⟩
      rw [ha]
      exact h

theorem bind_eq_error_iff :
    x >>= f = .error e ↔ x = .error e ∨ ∃ a, x = .ok a ∧ f a = .error e := by
  cases x with
  | error e' =>
      refine ⟨fun h => Or.inl (congrArg Except.error (Except.error.inj h)), ?_⟩
      rintro (h | ⟨a, h, -⟩)
      · rw [h]
        rfl
      · cases h
  | ok a =>
      refine ⟨fun h => Or.inr ⟨a, rfl, h⟩, ?_⟩
      rintro (h | ⟨a', ha, h⟩)
      · cases h
      · rw [ha]
        exact h

/-! ## Lists of steps -/

theorem forM_eq_ok_iff : xs.forM check = .ok () ↔ ∀ x ∈ xs, check x = .ok () := by
  induction xs with
  | nil => exact iff_of_true rfl fun x hx => absurd hx List.not_mem_nil
  | cons x xs ih =>
      have hcons : (x :: xs).forM check = check x >>= fun _ => xs.forM check := rfl
      rw [hcons, List.forall_mem_cons]
      cases check x with
      | error e => exact iff_of_false nofun fun h => nomatch h.1
      | ok u => exact ih.trans (and_iff_right rfl).symm

theorem exists_of_forM_eq_error (h : xs.forM check = .error e) : ∃ x ∈ xs, check x = .error e := by
  induction xs with
  | nil => cases h
  | cons x xs ih =>
      have hcons : (x :: xs).forM check = check x >>= fun _ => xs.forM check := rfl
      rw [hcons] at h
      rcases bind_eq_error_iff.mp h with hx | ⟨-, -, h⟩
      · exact ⟨x, List.mem_cons_self, hx⟩
      · obtain ⟨y, hy, hcheck⟩ := ih h
        exact ⟨y, List.mem_cons_of_mem x hy, hcheck⟩

theorem exists_mapM_eq_ok (h : ∀ x ∈ xs, ∃ y, f x = .ok y) : ∃ ys, xs.mapM f = .ok ys := by
  induction xs with
  | nil => exact ⟨[], rfl⟩
  | cons x xs ih =>
      obtain ⟨y, hy⟩ := h x List.mem_cons_self
      obtain ⟨ys, hys⟩ := ih fun z hz => h z (List.mem_cons_of_mem x hz)
      exact ⟨y :: ys, by rw [List.mapM_cons, hy, hys]; rfl⟩

theorem exists_of_mapM_eq_ok {ys : List β} {y : α} (h : xs.mapM f = .ok ys) (hy : y ∈ xs) :
    ∃ z, f y = .ok z := by
  induction xs generalizing ys with
  | nil => cases hy
  | cons x xs ih =>
      rw [List.mapM_cons] at h
      obtain ⟨z, hz, h⟩ := bind_eq_ok_iff.mp h
      obtain ⟨rest, hrest, -⟩ := bind_eq_ok_iff.mp h
      rcases List.mem_cons.mp hy with rfl | hy
      · exact ⟨z, hz⟩
      · exact ih hrest hy

theorem exists_of_mapM_eq_error (h : xs.mapM f = .error e) : ∃ x ∈ xs, f x = .error e := by
  induction xs with
  | nil => cases h
  | cons x xs ih =>
      rw [List.mapM_cons] at h
      rcases bind_eq_error_iff.mp h with hx | ⟨y, -, h⟩
      · exact ⟨x, List.mem_cons_self, hx⟩
      rcases bind_eq_error_iff.mp h with hxs | ⟨ys, -, h⟩
      · obtain ⟨z, hz, hfz⟩ := ih hxs
        exact ⟨z, List.mem_cons_of_mem x hz, hfz⟩
      · cases h

/-- What steps that give lists give together is what each of them gives. -/
theorem mem_flatten_of_mapM {g : α → Except ε (List β)} {ys : List (List β)}
    (h : xs.mapM g = .ok ys) (y : β) : y ∈ ys.flatten ↔ ∃ x ∈ xs, ∃ zs, g x = .ok zs ∧ y ∈ zs := by
  induction xs generalizing ys with
  | nil =>
      obtain rfl := Except.ok.inj h
      simp
  | cons x xs ih =>
      rw [List.mapM_cons] at h
      obtain ⟨zs, hzs, h⟩ := bind_eq_ok_iff.mp h
      obtain ⟨rest, hrest, h⟩ := bind_eq_ok_iff.mp h
      obtain rfl := Except.ok.inj h
      rw [List.flatten_cons, List.mem_append, ih hrest]
      simp [hzs]

end HeaderCheck
