/-
# What a plain scalar can mean

Written plain, some texts mean nothing, a boolean or a number, and a string
with such a text has to be quoted.  The forms here are those of the core
schema, with three additions: the capitalised spellings, the binary numbers,
and numbers with a plus sign.

An integer counts only within 128 bits, and a decimal number only if it is
finite in double precision, which is decided in exact arithmetic.
-/
import HeaderCheck.Text.Basic
import HeaderCheck.Yaml.Scalar

namespace HeaderCheck.Yaml

/-- The spellings of nothing, other than leaving the scalar empty. -/
def isNull (t : Text) : Bool :=
  ["null", "Null", "NULL", "~"].any (·.toList = t)

/-- The boolean with a spelling. -/
def boolean? (t : Text) : Option Bool :=
  if ["true", "True", "TRUE"].any (·.toList = t) then some true
  else if ["false", "False", "FALSE"].any (·.toList = t) then some false
  else none

/-! ## Integers -/

/-- The number that digits of a base stand for. -/
def digits? (base : Nat) (t : Text) : Option Nat :=
  if t.isEmpty then none
  else t.foldl (fun n c => do
    let n ← n
    let d ← hexDigit? c
    if d < base then some (base * n + d) else none) (some 0)

/-- The text without a sign. -/
def dropSign : Text → Text
  | '+' :: t => t
  | '-' :: t => t
  | t => t

/-- Are these digits with a leading zero? -/
def isPaddedNumber (t : Text) : Bool :=
  match dropSign t with
  | '0' :: c :: t => (c :: t).all Char.isDigit
  | _ => false

/-- The base that a number's first two characters give, and its digits. -/
def splitBase? : Text → Option (Nat × Text)
  | '0' :: 'x' :: t => some (16, t)
  | '0' :: 'o' :: t => some (8, t)
  | '0' :: 'b' :: t => some (2, t)
  | _ => none

/-- The magnitude of an integer without its sign. -/
def magnitude? (t : Text) : Option Nat :=
  match splitBase? t with
  | some (base, ds) => digits? base ds
  | none => if isPaddedNumber t then none else digits? 10 t

/-- A power of two. -/
def powerOfTwo (n : Nat) : Nat :=
  1 <<< n

/-- Is it an integer of 128 bits, without sign or with one? -/
def isInteger : Text → Bool
  | '-' :: t => (magnitude? t).any (· ≤ powerOfTwo 127)
  | '+' :: t => (magnitude? t).any (· < powerOfTwo 128)
  | t => (magnitude? t).any (· < powerOfTwo 128)

/-! ## Decimal numbers -/

/-- A decimal number without its sign: its digits as a number, and the power
of ten that they are multiplied by. -/
structure Decimal where
  digits : Nat
  exponent : Int
deriving DecidableEq, Repr

/-- An exponent behind its mark. -/
def exponent? (t : Text) : Option Int :=
  (digits? 10 (dropSign t)).map fun n => if t.head? = some '-' then -(n : Int) else (n : Int)

/-- A decimal number without its sign. -/
def decimal? (t : Text) : Option Decimal :=
  let whole := t.takeWhile Char.isDigit
  let behind := t.dropWhile Char.isDigit
  let (part, behind) := match behind with
    | '.' :: u => (u.takeWhile Char.isDigit, u.dropWhile Char.isDigit)
    | u => ([], u)
  (digits? 10 (whole ++ part)).bind fun digits =>
    match behind with
    | [] => some { digits, exponent := -(part.length : Int) }
    | c :: u =>
        if c = 'e' || c = 'E' then
          (exponent? u).map fun e => { digits, exponent := e - part.length }
        else none

/-- The least number that is not finite in double precision: half a unit
above the largest finite one. -/
def infiniteFrom : Nat := powerOfTwo 1024 - powerOfTwo 970

/-- Is a decimal number finite in double precision? -/
def Decimal.isFinite (d : Decimal) : Bool :=
  let size : Int := (Nat.toDigits 10 d.digits).length + d.exponent
  if d.digits = 0 || size < 300 then true
  else if 310 < size then false
  else if 0 ≤ d.exponent then d.digits * Nat.pow 10 d.exponent.toNat < infiniteFrom
  else d.digits < infiniteFrom * Nat.pow 10 (-d.exponent).toNat

/-- Is it a number with a decimal point or an exponent, an infinity or no
number at all? -/
def isDecimal (t : Text) : Bool :=
  let behindPlus := match t with
    | '+' :: u => if u.head? = some '-' || u.head? = some '+' then none else some u
    | u => some u
  match behindPlus with
  | none => false
  | some u =>
      [".inf", ".Inf", ".INF"].any (·.toList = u) ||
        ["-.inf", "-.Inf", "-.INF", ".nan", ".NaN", ".NAN"].any (·.toList = t) ||
        (decimal? (match u with
          | '-' :: v => v
          | v => v)).any (·.isFinite)

/-- Would the text, written plain, mean something else than itself? -/
def isAmbiguous (t : Text) : Bool :=
  t.isEmpty || isNull t || (boolean? t).isSome || isInteger t || isPaddedNumber t ||
    isDecimal t

end HeaderCheck.Yaml
