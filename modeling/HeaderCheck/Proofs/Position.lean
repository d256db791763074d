/-
# Positions are faithful

A report names a place of a text by line and column.  Nothing is lost by
that: positions increase along the text, so no two places share one, and the
place is found again from its position alone.

A position is decided by what stands before the place, and that comes in two
parts: whole lines, each with its line feed, and a row without one
(`exists_row`).  The line counts the first part and the column the second
(`endPosition_row`).  One character more starts a new line or makes the row
longer by one, and either way the position goes up (`before_concat`).

On the way back, `offset?` counts off the lines and then the characters of the
row.  It finds exactly the places of the text, each at its own position
(`offset?_eq_some_iff`).

Offsets that are no places have positions too.  They are those of `fit`, which
falls back to the start of a character and to the end of the text.
-/
import HeaderCheck.Proofs.Cuts
import HeaderCheck.Text.Position

namespace HeaderCheck

/-! ## The order of positions -/

namespace Position

variable {p q r : Position}

/-- One position comes before another one: on an earlier line, or further to
the left on the same one. -/
def Before (p q : Position) : Prop :=
  p.line < q.line ∨ p.line = q.line ∧ p.column < q.column

instance (p q : Position) : Decidable (p.Before q) :=
  inferInstanceAs (Decidable (_ ∨ _))

theorem Before.trans (hpq : p.Before q) (hqr : q.Before r) : p.Before r := by
  rw [Before] at *
  omega

theorem Before.ne (h : p.Before q) : p ≠ q := by
  rintro rfl
  rw [Before] at h
  omega

end Position

namespace Text

variable {t above row rest : Text} {p : Position} {c : Char} {m n : Nat}

/-! ## What an offset falls back to -/

theorem fit_append (a b : Text) (n : Nat) : fit (a ++ b) (width a + n) = a ++ fit b n := by
  induction a with
  | nil => rw [List.nil_append, width_nil, Nat.zero_add, List.nil_append]
  | cons c a ih =>
      have hle : c.utf8Size ≤ width (c :: a) + n := by
        rw [width_cons]
        omega
      have hsub : width (c :: a) + n - c.utf8Size = width a + n := by
        rw [width_cons]
        omega
      rw [List.cons_append, fit, if_pos hle, hsub, ih, List.cons_append]

/-- No character fits into fewer bytes than it has. -/
theorem fit_inside (after : Text) (h : n < c.utf8Size) : fit (c :: after) n = [] := by
  rw [fit, if_neg (Nat.not_le.mpr h)]

theorem fit_width (a b : Text) : fit (a ++ b) (width a) = a := by
  have hzero : fit b 0 = [] := by
    cases b with
    | nil => rfl
    | cons c b => exact fit_inside b c.utf8Size_pos
  have happ := fit_append a b 0
  rwa [Nat.add_zero, hzero, List.append_nil] at happ

theorem fit_of_width_le (h : width t ≤ n) : fit t n = t := by
  obtain ⟨k, rfl⟩ := Nat.exists_eq_add_of_le h
  have happ := fit_append t [] k
  rwa [fit, List.append_nil] at happ

/-! ## The position behind a text -/

/-- The position of the place behind a text. -/
def endPosition (t : Text) : Position :=
  { line := t.count '\n' + 1
    column := (t.reverse.takeWhile (· ≠ '\n')).length + 1 }

theorem position_eq (t : Text) (n : Nat) : t.position n = (t.fit n).endPosition := rfl

/-- Only what stands before a place decides its position. -/
theorem position_width (a b : Text) : (a ++ b).position (width a) = a.endPosition := by
  rw [position_eq, fit_width]

/-- Whole lines, each with its line feed. -/
def IsLines (t : Text) : Prop :=
  t = [] ∨ ∃ s, t = s ++ ['\n']

theorem exists_row (t : Text) : ∃ above row, t = above ++ row ∧ above.IsLines ∧ '\n' ∉ row := by
  rcases exists_lastPiece '\n' t with hno | ⟨above, row, rfl, hrow⟩
  · exact ⟨[], t, rfl, Or.inl rfl, hno⟩
  · exact ⟨above ++ ['\n'], row, by rw [List.append_assoc]; rfl, Or.inr ⟨above, rfl⟩, hrow⟩

/-- The characters of the row, read from its end, stop at the lines above. -/
theorem length_takeWhile_row (ha : above.IsLines) (hr : '\n' ∉ row) :
    ((above ++ row).reverse.takeWhile (· ≠ '\n')).length = row.length := by
  have hrow : ∀ c ∈ row.reverse, decide (c ≠ '\n') = true := fun c hc =>
    decide_eq_true fun heq => hr (heq ▸ List.mem_reverse.mp hc)
  have habove : ∀ c ∈ above.reverse.head?, decide (c ≠ '\n') = false := by
    rcases ha with rfl | ⟨s, rfl⟩
    · simp
    · simp
  rw [List.reverse_append, takeWhile_eq_of_boundary hrow habove, List.length_reverse]

theorem endPosition_row (ha : above.IsLines) (hr : '\n' ∉ row) :
    (above ++ row).endPosition = ⟨above.count '\n' + 1, row.length + 1⟩ := by
  rw [endPosition, length_takeWhile_row ha hr, List.count_append, List.count_eq_zero_of_not_mem hr,
    Nat.add_zero]

/-- One character more starts a new line or makes the row longer. -/
theorem before_concat (t : Text) (c : Char) :
    t.endPosition.Before (t ++ [c]).endPosition := by
  obtain ⟨above, row, rfl, ha, hr⟩ := exists_row t
  rw [endPosition_row ha hr]
  by_cases hc : c = '\n'
  · subst hc
    have hlines : (above ++ row ++ ['\n']).IsLines := Or.inr ⟨above ++ row, rfl⟩
    have hend := endPosition_row hlines List.not_mem_nil
    rw [List.append_nil] at hend
    have hcount : (above ++ row ++ ['\n']).count '\n' = above.count '\n' + row.count '\n' + 1 := by
      rw [List.count_append, List.count_append, List.count_singleton_self]
    rw [hend, hcount]
    exact Or.inl (by simp only; omega)
  · have hrow : '\n' ∉ row ++ [c] := by simp [hr, Ne.symm hc]
    rw [List.append_assoc, endPosition_row ha hrow]
    exact Or.inr ⟨rfl, by simp⟩

theorem before_append (t : Text) (h : rest ≠ []) :
    t.endPosition.Before (t ++ rest).endPosition := by
  induction rest using List.reverseRecOn with
  | nil => exact absurd rfl h
  | append_singleton rest c ih =>
      rw [← List.append_assoc]
      by_cases hnil : rest = []
      · rw [hnil, List.append_nil]
        exact before_concat t c
      · exact (ih hnil).trans (before_concat _ c)

theorem before_of_lt (hm : t.IsPlace m) (hn : t.IsPlace n) (h : m < n) :
    (t.position m).Before (t.position n) := by
  obtain ⟨a, b, c, rfl, rfl, rfl⟩ := IsRange.exists_parts ⟨Nat.le_of_lt h, hm, hn⟩
  have hb : b ≠ [] := by
    rintro rfl
    rw [List.append_nil] at h
    exact Nat.lt_irrefl _ h
  rw [position_width (a ++ b) c, List.append_assoc, position_width a (b ++ c)]
  exact before_append a hb

/-! ## The way back -/

/-- The first lines of a text, and what follows them. -/
def splitLines? : (lines : Nat) → Text → Option (Text × Text)
  | 0, t => some ([], t)
  | _ + 1, [] => none
  | n + 1, c :: t =>
      (splitLines? (if c = '\n' then n else n + 1) t).map fun (above, rest) => (c :: above, rest)

/-- The first characters of a text, if no line feed is among them. -/
def splitRow? : (columns : Nat) → Text → Option Text
  | 0, _ => some []
  | _ + 1, [] => none
  | n + 1, c :: t => if c = '\n' then none else (splitRow? n t).map (c :: ·)

/-- The offset of a position: from the start of its line, the characters
before its column are skipped. -/
def offset? (t : Text) : Position → Option Nat
  | ⟨line + 1, column + 1⟩ => do
      let (above, rest) ← t.splitLines? line
      let row ← rest.splitRow? column
      return width above + width row
  | _ => none

theorem isLines_cons : IsLines (c :: above) ↔ above.IsLines ∧ (above = [] → c = '\n') := by
  constructor
  · rintro (h | ⟨s, h⟩)
    · cases h
    · cases s with
      | nil =>
          obtain ⟨rfl, rfl⟩ := List.cons.inj h
          exact ⟨Or.inl rfl, fun _ => rfl⟩
      | cons d s =>
          obtain ⟨-, rfl⟩ := List.cons.inj h
          exact ⟨Or.inr ⟨s, rfl⟩, fun hnil => absurd hnil (by simp)⟩
  · rintro ⟨rfl | ⟨s, rfl⟩, hc⟩
    · exact Or.inr ⟨[], by rw [hc rfl, List.nil_append]⟩
    · exact Or.inr ⟨c :: s, rfl⟩

/-- The only lines without a line feed are none. -/
theorem isLines_and_count_eq_zero_iff : above.count '\n' = 0 ∧ above.IsLines ↔ above = [] := by
  constructor
  · rintro ⟨hcount, rfl | ⟨s, rfl⟩⟩
    · rfl
    · exact absurd (List.mem_append_right s List.mem_cons_self) (List.count_eq_zero.mp hcount)
  · rintro rfl
    exact ⟨rfl, Or.inl rfl⟩

/-- A line feed in front is one line more. -/
theorem count_cons_feed (c : Char) (t : Text) :
    (c :: t).count '\n' = n + 1 ↔ t.count '\n' = if c = '\n' then n else n + 1 := by
  by_cases hc : c = '\n'
  · rw [hc, List.count_cons_self, if_pos rfl, Nat.add_right_cancel_iff]
  · rw [List.count_cons_of_ne hc, if_neg hc]

theorem splitLines?_zero_iff :
    splitLines? 0 t = some (above, rest) ↔
      t = above ++ rest ∧ above.count '\n' = 0 ∧ above.IsLines := by
  have hzero : splitLines? 0 t = some ([], t) := by cases t <;> rfl
  rw [hzero, isLines_and_count_eq_zero_iff, Option.some.injEq, Prod.mk.injEq]
  constructor
  · rintro ⟨rfl, rfl⟩
    exact ⟨rfl, rfl⟩
  · rintro ⟨rfl, rfl⟩
    exact ⟨rfl, rfl⟩

theorem splitLines?_eq_some_iff :
    splitLines? n t = some (above, rest) ↔
      t = above ++ rest ∧ above.count '\n' = n ∧ above.IsLines := by
  induction t generalizing n above with
  | nil =>
      cases n with
      | zero => exact splitLines?_zero_iff
      | succ n =>
          refine iff_of_false (by simp [splitLines?]) ?_
          rintro ⟨h, hcount, -⟩
          obtain ⟨rfl, -⟩ := List.nil_eq_append_iff.mp h
          cases hcount
  | cons c t ih =>
      cases n with
      | zero => exact splitLines?_zero_iff
      | succ n =>
          rw [splitLines?, Option.map_eq_some_iff]
          constructor
          · rintro ⟨⟨u, v⟩, hsplit, heq⟩
            obtain ⟨rfl, rfl⟩ := Prod.mk.inj heq
            obtain ⟨rfl, hcount, hlines⟩ := ih.mp hsplit
            refine ⟨rfl, (count_cons_feed c u).mpr hcount, isLines_cons.mpr ⟨hlines, ?_⟩⟩
            -- a line is still to come behind another character, so that is not the last one
            rintro rfl
            by_contra hc
            rw [if_neg hc] at hcount
            cases hcount
          · rintro ⟨h, hcount, hlines⟩
            cases above with
            | nil => cases hcount
            | cons d u =>
                obtain ⟨rfl, rfl⟩ := List.cons.inj h
                have hu := (count_cons_feed c u).mp hcount
                exact ⟨(u, rest), ih.mpr ⟨rfl, hu, (isLines_cons.mp hlines).1⟩, rfl⟩

theorem splitRow?_zero_iff :
    splitRow? 0 t = some row ↔ row <+: t ∧ row.length = 0 ∧ '\n' ∉ row := by
  have hzero : splitRow? 0 t = some [] := by cases t <;> rfl
  rw [hzero, Option.some.injEq]
  constructor
  · rintro rfl
    exact ⟨List.nil_prefix, rfl, List.not_mem_nil⟩
  · rintro ⟨-, hlength, -⟩
    exact (List.length_eq_zero_iff.mp hlength).symm

theorem splitRow?_eq_some_iff :
    splitRow? n t = some row ↔ row <+: t ∧ row.length = n ∧ '\n' ∉ row := by
  induction t generalizing n row with
  | nil =>
      cases n with
      | zero => exact splitRow?_zero_iff
      | succ n =>
          refine iff_of_false (by simp [splitRow?]) ?_
          rintro ⟨hstart, hlength, -⟩
          rw [List.prefix_nil.mp hstart] at hlength
          cases hlength
  | cons c t ih =>
      cases n with
      | zero => exact splitRow?_zero_iff
      | succ n =>
          rw [splitRow?]
          split
          next hc =>
            refine iff_of_false nofun ?_
            rintro ⟨hstart, hlength, hrow⟩
            cases row with
            | nil => cases hlength
            | cons d u =>
                obtain ⟨rfl, -⟩ := List.cons_prefix_cons.mp hstart
                exact hrow (hc ▸ List.mem_cons_self)
          next hc =>
            rw [Option.map_eq_some_iff]
            constructor
            · rintro ⟨u, hu, rfl⟩
              obtain ⟨hstart, rfl, hrow⟩ := ih.mp hu
              exact ⟨List.cons_prefix_cons.mpr ⟨rfl, hstart⟩, rfl, by simp [hrow, Ne.symm hc]⟩
            · rintro ⟨hstart, hlength, hrow⟩
              cases row with
              | nil => cases hlength
              | cons d u =>
                  obtain ⟨rfl, hu⟩ := List.cons_prefix_cons.mp hstart
                  have hrest := (not_or.mp (mt List.mem_cons.mpr hrow)).2
                  exact ⟨u, ih.mpr ⟨hu, Nat.succ.inj hlength, hrest⟩, rfl⟩

/-- What the way back finds are the places of the text, each at its own
position. -/
theorem offset?_eq_some_iff : t.offset? p = some n ↔ t.IsPlace n ∧ t.position n = p := by
  constructor
  · intro h
    rw [offset?.eq_def] at h
    split at h
    next line column =>
      obtain ⟨⟨above, rest⟩, hlines, hfound⟩ := Option.bind_eq_some_iff.mp h
      obtain ⟨row, hrow, hsum⟩ := Option.bind_eq_some_iff.mp hfound
      obtain ⟨rfl, rfl, ha⟩ := splitLines?_eq_some_iff.mp hlines
      obtain ⟨⟨after, rfl⟩, rfl, hr⟩ := splitRow?_eq_some_iff.mp hrow
      obtain rfl := Option.some.inj hsum
      rw [← width_append, ← List.append_assoc]
      exact ⟨isPlace_width _ _, by rw [position_width, endPosition_row ha hr]⟩
    next => cases h
  · rintro ⟨⟨before, after, rfl, rfl⟩, rfl⟩
    obtain ⟨above, row, rfl, ha, hr⟩ := exists_row before
    have hlines : ((above ++ row) ++ after).splitLines? (above.count '\n') =
        some (above, row ++ after) :=
      splitLines?_eq_some_iff.mpr ⟨List.append_assoc _ _ _, rfl, ha⟩
    have hrow : (row ++ after).splitRow? row.length = some row :=
      splitRow?_eq_some_iff.mpr ⟨List.prefix_append _ _, rfl, hr⟩
    rw [position_width, endPosition_row ha hr, offset?, hlines]
    show ((row ++ after).splitRow? row.length).bind _ = _
    rw [hrow, width_append]
    rfl

/-! ## All offsets -/

/-- What makes positions good for naming places of a text. -/
structure Faithful (t : Text) : Prop where
  /-- They increase along the text. -/
  increasing : ∀ m n, t.IsPlace m → t.IsPlace n → m < n → (t.position m).Before (t.position n)
  /-- No two places have the same. -/
  distinct : ∀ m n, t.IsPlace m → t.IsPlace n → t.position m = t.position n → m = n
  /-- A place lies behind as many whole lines and, from there, as many
  characters of one row as its position counts. -/
  counted : ∀ n, t.IsPlace n → ∃ above row rest, t = above ++ row ++ rest ∧
    n = width above + width row ∧
    above.IsLines ∧ above.count '\n' = (t.position n).line - 1 ∧
    '\n' ∉ row ∧ row.length = (t.position n).column - 1
  /-- It is found again from its position, and nothing else is. -/
  recovered : ∀ p n, t.offset? p = some n ↔ t.IsPlace n ∧ t.position n = p
  /-- An offset inside a character has the position of the character. -/
  inside : ∀ before c after n, t = before ++ c :: after → n < c.utf8Size →
    t.position (width before + n) = t.position (width before)
  /-- One past the end has that of the end. -/
  beyond : ∀ n, width t ≤ n → t.position n = t.position (width t)

/-- **Positions are faithful**, in every text. -/
theorem position_faithful (t : Text) : t.Faithful where
  increasing := fun _ _ => before_of_lt
  distinct := by
    intro m n hm hn heq
    rcases Nat.lt_trichotomy m n with h | h | h
    · exact absurd heq (before_of_lt hm hn h).ne
    · exact h
    · exact absurd heq.symm (before_of_lt hn hm h).ne
  counted := by
    rintro n ⟨before, rest, rfl, rfl⟩
    obtain ⟨above, row, rfl, ha, hr⟩ := exists_row before
    rw [position_width, endPosition_row ha hr]
    exact ⟨above, row, rest, rfl, width_append above row, ha, rfl, hr, rfl⟩
  recovered := fun _ _ => offset?_eq_some_iff
  inside := by
    rintro before c after n rfl hn
    rw [position_width, position_eq, fit_append, fit_inside after hn, List.append_nil]
  beyond := by
    intro n hn
    rw [position_eq, position_eq, fit_of_width_le hn, fit_of_width_le (Nat.le_refl _)]

/-- Behind the break of the first line; inside the second character, which is
two bytes wide; and past the end. -/
example :
    let t : Text := "a\r\né\n".toList
    t.position 3 = ⟨2, 1⟩ ∧ t.position 4 = ⟨2, 1⟩ ∧ t.position 9 = ⟨3, 1⟩ ∧
      t.offset? ⟨2, 2⟩ = some 5 ∧ t.offset? ⟨2, 3⟩ = none := by
  decide

end Text

end HeaderCheck
