/-
# The space a pattern takes

A pattern is refused when it would take too much space, which is measured
on an automaton over the bytes of a text, read from their end, with every
counted repetition written out.

A state takes 32 bytes.  A set of several characters beyond ASCII is a
choice among sequences of byte ranges, with one state for each range that a
sequence does not share with the one before, and a set of ASCII characters
is one state with a list of ranges.  A choice and a repetition have a state
that leads on to several others.
-/
import HeaderCheck.Regex.Expr

namespace HeaderCheck.Regex

open HeaderCheck.Unicode

/-- Ranges of code points, both ends included. -/
abbrev Ranges := List (Nat × Nat)

namespace Ranges

/-! ## Ranges -/

/-- Ranges in the order of their starts, with those that touch joined. -/
def joined : Ranges → Ranges
  | (a, b) :: (c, d) :: t =>
      if c ≤ b + 1 then joined ((a, max b d) :: t) else (a, b) :: joined ((c, d) :: t)
  | rs => rs
termination_by rs => rs.length

/-- The least number of ranges for the same code points. -/
def normal (rs : Ranges) : Ranges :=
  joined (rs.mergeSort fun r s => r.1 ≤ s.1)

/-- The code points from `start` on that are in none of the ranges. -/
def outside (start : Nat) : Ranges → Ranges
  | [] => if start ≤ 0x10FFFF then [(start, 0x10FFFF)] else []
  | (a, b) :: t =>
      if start < a then (start, a - 1) :: outside (b + 1) t else outside (b + 1) t

/-- The number of code points. -/
def size (rs : Ranges) : Nat :=
  rs.foldl (fun n (a, b) => n + (b + 1 - a)) 0

/-- The characters. -/
def members (rs : Ranges) : List Char :=
  rs.flatMap fun (a, b) => (List.range (b + 1 - a)).map fun i => Char.ofNat (a + i)

/-- The ranges with the variants of their characters added.  Sets of more
than a thousand characters have them already. -/
def withVariants (variants : Char → List Char) (rs : Ranges) : Ranges :=
  if rs.size ≤ 1000 then
    normal (rs ++ (rs.members.flatMap variants).map fun c => (c.toNat, c.toNat))
  else rs

end Ranges

namespace CharSet

/-- The characters of a set. -/
def ranges : CharSet → Ranges
  | none => []
  | range a b => if a ≤ b then [(a, b)] else []
  | word =>
      .normal ([(48, 57), (65, 90), (95, 95), (97, 122)] ++
        runRanges false 0 BinaryProperty.alphabetic.runs ++
        runRanges false 0 BinaryProperty.joinControl.runs ++
        Property.categoryRanges [.mn, .mc, .me, .nd, .pc].contains)
  | digit => .normal (Property.categoryRanges (· = .nd))
  | blank =>
      [(9, 13), (32, 32), (0x85, 0x85), (0xA0, 0xA0), (0x1680, 0x1680), (0x2000, 0x200A),
       (0x2028, 0x2029), (0x202F, 0x202F), (0x205F, 0x205F), (0x3000, 0x3000)]
  | property p => .normal p.ranges
  | union s t => .normal (s.ranges ++ t.ranges)
  | inter s t => .outside 0 (.normal (.outside 0 s.ranges ++ .outside 0 t.ranges))
  | compl s => .outside 0 s.ranges
  | folded s => .withVariants caseOrbit s.ranges
  | foldedAscii s => .withVariants (fun c => [otherAsciiCase c]) s.ranges

end CharSet

/-! ## Sequences of byte ranges -/

/-- What bytes a character of a range can have: for each byte of its UTF-8
form, the range of the values it can take. -/
abbrev ByteRanges := List (Nat × Nat)

/-- The byte ranges of the code points from `first` to `last`, when `more`
bytes of six bits follow the leading one. -/
def byteRanges : (more first last : Nat) → List ByteRanges
  | 0, a, b => [[(a, b)]]
  | n + 1, a, b =>
      let unit := 1 <<< (6 * (n + 1))
      let x := a / unit
      let y := b / unit
      if x = y then (byteRanges n (a % unit) (b % unit)).map ((x, x) :: ·)
      else
        let cutFirst := a % unit ≠ 0
        let cutLast := (b + 1) % unit ≠ 0
        let low := if cutFirst then x + 1 else x
        let high := if cutLast then y - 1 else y
        (if cutFirst then (byteRanges n (a % unit) (unit - 1)).map ((x, x) :: ·) else []) ++
          (if low ≤ high then [(low, high) :: List.replicate (n + 1) (0, 63)] else []) ++
          (if cutLast then (byteRanges n 0 (b % unit)).map ((y, y) :: ·) else [])

/-- The stretches of code points whose forms have the same number of bytes,
with the number of bytes behind the leading one. -/
def widths : List (Nat × Nat × Nat) :=
  [(0, 0, 0x7F), (1, 0x80, 0x7FF), (2, 0x800, 0xD7FF), (2, 0xE000, 0xFFFF),
   (3, 0x10000, 0x10FFFF)]

/-- The byte ranges of a range of code points. -/
def byteRangesOf (r : Nat × Nat) : List ByteRanges :=
  widths.flatMap fun (more, first, last) =>
    let a := max r.1 first
    let b := min r.2 last
    if a ≤ b then byteRanges more a b else []

/-- How many byte ranges two sequences of the same length have in common at
their start. -/
def sharedRanges (r s : ByteRanges) : Nat :=
  if r.length = s.length then ((r.zip s).takeWhile fun (x, y) => x = y).length else 0

/-- The number of byte ranges that a sequence does not share with the one
before. -/
def stateCount (previous : ByteRanges) : List ByteRanges → Nat
  | [] => 0
  | r :: t => r.length - sharedRanges previous r + stateCount r t

/-! ## Space -/

/-- The space of a state. -/
def stateSpace : Nat := 32

/-- The space of a set of characters. -/
def CharSet.space (s : CharSet) : Nat :=
  let rs := s.ranges
  if rs.size = 1 then stateSpace * Text.width rs.members
  else if rs.all (·.2 < 128) then 2 * stateSpace + 8 * rs.length
  else
    let forms := rs.flatMap byteRangesOf
    2 * stateSpace + 4 * forms.length + stateSpace * stateCount [] forms

namespace Expr

/-- Can the expression match only the empty text? -/
def isEmptyOnly : Expr → Bool
  | empty => true
  | char _ => false
  | test _ => true
  | seq r s => r.isEmptyOnly && s.isEmptyOnly
  | alt r s => r.isEmptyOnly && s.isEmptyOnly
  | rep r _ most => most = some 0 || r.isEmptyOnly

/-- Can the expression match the empty text at some place? -/
def canBeEmpty : Expr → Bool
  | empty => true
  | char _ => false
  | test _ => true
  | seq r s => r.canBeEmpty && s.canBeEmpty
  | alt r s => r.canBeEmpty || s.canBeEmpty
  | rep r least _ => least = 0 || r.canBeEmpty

/-- The set of a choice between characters. -/
def choiceSet? : Expr → Option CharSet
  | char s => some s
  | alt r s => do return .union (← r.choiceSet?) (← s.choiceSet?)
  | _ => none

/-- The space of a state that leads on to two others. -/
def forkSpace : Nat := stateSpace + 8

/-- The space of a repetition of an expression that takes `each`. -/
def repSpace (each : Nat) (emptyOnly canBeEmpty : Bool) (least : Nat) : Option Nat → Nat
  | some 0 => stateSpace
  | some (n + 1) =>
      if emptyOnly then each + (if least = 0 then forkSpace + stateSpace else 0)
      else if n + 1 ≤ least then least * each
      else
        let start := if least = 0 && n ≠ 0 then stateSpace else 0
        start + (n + 1) * each + (n + 1 - least) * forkSpace + stateSpace
  | none =>
      if emptyOnly then each + (if least = 0 then forkSpace + stateSpace else 0)
      else if least = 0 && canBeEmpty then each + 2 * forkSpace + stateSpace
      else max least 1 * each + forkSpace

/-- The space of an expression inside of a pattern. -/
def innerSpace : Expr → Nat
  | empty => stateSpace
  | char s => s.space
  | test _ => stateSpace
  | seq empty s => s.innerSpace
  | seq r empty => r.innerSpace
  | seq r s => r.innerSpace + s.innerSpace
  | alt r s =>
      match (alt r s).choiceSet?, s with
      | some set, _ => set.space
      | none, alt _ _ => r.innerSpace + s.innerSpace + 4
      | none, _ => r.innerSpace + s.innerSpace + forkSpace + stateSpace
  | rep r least most => repSpace r.innerSpace r.isEmptyOnly r.canBeEmpty least most

/-- The space of a whole pattern, which looks for the expression at every
place and marks where a match starts and ends. -/
def space (r : Expr) : Nat :=
  r.innerSpace + forkSpace + 4 * stateSpace

end Expr

/-- The space that a pattern may take. -/
def spaceLimit : Nat := 10 * 1024 * 1024

end HeaderCheck.Regex
