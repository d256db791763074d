/-
# Tables of code points

A table of the Unicode standard assigns something to stretches of code
points.  It is kept as a list of numbers and written down in letters: each
number in base 26, its last digit in lower case and the others in upper
case, so that no separators are needed.  Blanks and line breaks between the
letters do not count.

A set of code points is a list of run lengths, the first of them outside
the set, the next inside, and so on.
-/

namespace HeaderCheck.Unicode

/-- The numbers that letters write; `acc` holds the digits of
the one being read. -/
def readNumbers : (acc : Nat) → List Char → List Nat
  | _, [] => []
  | acc, c :: t =>
      if c.isLower then (acc * 26 + (c.toNat - 97)) :: readNumbers 0 t
      else readNumbers (acc * 26 + (c.toNat - 65)) t

/-- The table that letters write. -/
def table (letters : String) : List Nat :=
  readNumbers 0 (letters.toList.filter Char.isAlpha)

/-- Is a code point in the set with these run lengths, when the first run
is inside or outside as `inside` says? -/
def inRuns (inside : Bool) : List Nat → Nat → Bool
  | [], _ => inside
  | k :: ks, n => if n < k then inside else inRuns (!inside) ks (n - k)

/-- The code points in the set with these run lengths, `start` being where
the first run begins, as ranges with both ends included. -/
def runRanges (inside : Bool) (start : Nat) : List Nat → List (Nat × Nat)
  | [] => if inside then [(start, 0x10FFFF)] else []
  | k :: ks =>
      let rest := runRanges (!inside) (start + k) ks
      if inside && k ≠ 0 then (start, start + k - 1) :: rest else rest

/-- The code points with a wanted value, in a table of run lengths and
values, as ranges. -/
def valueRanges (wanted : Nat → Bool) (start : Nat) : List Nat → List (Nat × Nat)
  | k :: v :: t =>
      let rest := valueRanges wanted (start + k) t
      if wanted v then (start, start + k - 1) :: rest else rest
  | _ => []

end HeaderCheck.Unicode
