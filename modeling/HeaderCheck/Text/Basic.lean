/-
# Texts and byte offsets

A text is the list of its characters.  Everything the checker reports —
where a header may begin, where a comment ends, what an edit replaces — is
a byte offset into the UTF-8 form of a text, so the one thing to get right
here is the passage from offsets to pieces of the text.

`cut?` is that passage.  It answers `none` exactly when the offset lies
beyond the text or inside a character, and otherwise gives the two parts,
whose concatenation is the text and the first of which is as wide as the
offset (`cut?_eq_some_iff`).  Every slice of the library goes through it.
-/

namespace HeaderCheck

/-- A text: the list of its characters. -/
abbrev Text := List Char

namespace Text

/-- The number of bytes of the UTF-8 form. -/
def width : Text → Nat
  | [] => 0
  | c :: t => c.utf8Size + width t

/-- The two parts of a text at a byte offset. -/
def cut? : Text → Nat → Option (Text × Text)
  | t, 0 => some ([], t)
  | [], _ + 1 => none
  | c :: t, n + 1 =>
      if c.utf8Size ≤ n + 1 then
        (cut? t (n + 1 - c.utf8Size)).map fun (a, b) => (c :: a, b)
      else none

/-- The text before an offset. -/
def upTo? (t : Text) (offset : Nat) : Option Text :=
  (t.cut? offset).map (·.1)

/-- The text from an offset on. -/
def from? (t : Text) (offset : Nat) : Option Text :=
  (t.cut? offset).map (·.2)

/-- The text between two offsets. -/
def slice? (t : Text) (start stop : Nat) : Option Text :=
  if start ≤ stop then (t.upTo? stop).bind (from? · start) else none

/-- The longest beginning that fits into a number of bytes: an offset
inside a character falls back to the character's start, one past the end
to the end. -/
def fit : Text → Nat → Text
  | [], _ => []
  | c :: t, n => if c.utf8Size ≤ n then c :: fit t (n - c.utf8Size) else []

/-- What follows a given beginning. -/
def after? : (start t : Text) → Option Text
  | [], t => some t
  | _ :: _, [] => none
  | c :: s, d :: t => if c = d then after? s t else none

/-- What precedes a given ending. -/
def before? (t ending : Text) : Option Text :=
  (after? ending.reverse t.reverse).map List.reverse

/-- Does `piece` occur in the text? -/
def includes (piece : Text) : Text → Bool
  | [] => piece.isEmpty
  | c :: t => piece.isPrefixOf (c :: t) || includes piece t

/-- The pieces between the occurrences of one character. -/
def splitOn (mark : Char) : Text → List Text
  | [] => [[]]
  | c :: t =>
      if c = mark then [] :: splitOn mark t
      else match splitOn mark t with
        | [] => [[c]]
        | l :: ls => (c :: l) :: ls

/-- The text with each `old` character replaced by `new`. -/
def replaceChar (old new : Char) (t : Text) : Text :=
  t.map fun c => if c = old then new else c

/-- A text written `n` times in a row. -/
def times (t : Text) (n : Nat) : Text :=
  (List.replicate n t).flatten

/-! ## The law of `cut?` -/

@[simp] theorem width_nil : width [] = 0 := rfl

@[simp] theorem width_cons (c : Char) (t : Text) :
    width (c :: t) = c.utf8Size + width t := rfl

@[simp] theorem width_append (s t : Text) : width (s ++ t) = width s + width t := by
  induction s with
  | nil => simp
  | cons c s ih => simp [ih, Nat.add_assoc]

theorem width_eq_zero_iff {t : Text} : width t = 0 ↔ t = [] := by
  cases t with
  | nil => simp
  | cons c t =>
      have hc := Char.utf8Size_pos c
      simp only [width_cons, reduceCtorEq, iff_false]
      omega

theorem cut?_width (s t : Text) : cut? (s ++ t) (width s) = some (s, t) := by
  induction s with
  | nil => cases t <;> rfl
  | cons c s ih =>
      have hc := Char.utf8Size_pos c
      obtain ⟨n, hn⟩ : ∃ n, width (c :: s) = n + 1 :=
        ⟨width (c :: s) - 1, by simp only [width_cons]; omega⟩
      have hle : c.utf8Size ≤ n + 1 := by simp only [width_cons] at hn; omega
      have hsub : n + 1 - c.utf8Size = width s := by
        simp only [width_cons] at hn; omega
      simp [hn, cut?, hle, hsub, ih]

theorem eq_of_cut? {t a b : Text} {n : Nat} (h : cut? t n = some (a, b)) :
    t = a ++ b ∧ width a = n := by
  induction t generalizing n a b with
  | nil =>
      cases n with
      | zero => simp [cut?] at h; simp [h]
      | succ n => simp [cut?] at h
  | cons c t ih =>
      cases n with
      | zero =>
          simp only [cut?, Option.some.injEq, Prod.mk.injEq] at h
          obtain ⟨rfl, rfl⟩ := h
          simp
      | succ n =>
          simp only [cut?] at h
          split at h
          case isFalse => simp at h
          case isTrue hle =>
            obtain ⟨⟨x, y⟩, hxy, he⟩ := Option.map_eq_some_iff.1 h
            simp only [Prod.mk.injEq] at he
            obtain ⟨rfl, rfl⟩ := he
            obtain ⟨rfl, hw⟩ := ih hxy
            exact ⟨rfl, by simp only [width_cons]; omega⟩

theorem cut?_eq_some_iff {t a b : Text} {n : Nat} :
    cut? t n = some (a, b) ↔ t = a ++ b ∧ width a = n :=
  ⟨eq_of_cut?, fun ⟨ht, hn⟩ => by subst ht hn; exact cut?_width a b⟩

end Text

end HeaderCheck
