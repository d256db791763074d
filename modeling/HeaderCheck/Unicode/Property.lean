/-
# Properties by name

A pattern can name a set of characters: by a general category or a group
of them, by a script, by a binary property, or by the value of a property
(`Script=Greek`).  Names are matched loosely — blanks, hyphens,
underscores, case and a leading `is` do not count — and one that names
nothing is an error of the pattern.
-/
import HeaderCheck.Text.Basic
import HeaderCheck.Unicode.Category
import HeaderCheck.Unicode.Script
import HeaderCheck.Unicode.Binary
import HeaderCheck.Unicode.Age

namespace HeaderCheck.Unicode

/-- A nameable set of characters. -/
inductive Property where
  | any
  | ascii
  | assigned
  | categories (cs : List Category)
  | script (number : Nat)
  | scriptExtension (number : Nat)
  | upToAge (number : Nat)
  | binary (number : Nat)
deriving DecidableEq, Repr

namespace Property

/-- Does a character have the property? -/
def holds : Property → Char → Bool
  | any, _ => true
  | ascii, c => c.toNat < 128
  | assigned, c => category c ≠ .cn
  | categories cs, c => cs.contains (category c)
  | script i, c => (Script.scriptsOf false c).contains i
  | scriptExtension i, c => (Script.scriptsOf true c).contains i
  | upToAge i, c =>
      match Age.find Age.runs c.toNat with
      | some v => v ≤ i
      | none => false
  | binary i, c =>
      match BinaryProperty.all[i]? with
      | some p => p.holds c
      | none => false

/-- The code points with the categories that are wanted. -/
def categoryRanges (wanted : Category → Bool) : List (Nat × Nat) :=
  valueRanges (fun v => wanted (Category.all.getD v .cn)) 0 Category.runs

/-- The code points with the property, as ranges in their order. -/
def ranges : Property → List (Nat × Nat)
  | any => [(0, 0x10FFFF)]
  | ascii => [(0, 127)]
  | assigned => categoryRanges (· ≠ .cn)
  | categories cs => categoryRanges cs.contains
  | script i => Script.rangesOf false i
  | scriptExtension i => Script.rangesOf true i
  | upToAge i => valueRanges (fun v => v ≠ 0 && v - 1 ≤ i) 0 Age.runs
  | binary i =>
      match BinaryProperty.all[i]? with
      | some p => runRanges false 0 p.runs
      | none => []

/-! ## Names -/

/-- The normal form of a property name. -/
def normalName (name : Text) : String :=
  let rest := match name with
    | i :: s :: t => if i.toLower = 'i' && s.toLower = 's' then some t else none
    | _ => none
  let plain (t : Text) := String.ofList <| (t.filter fun c =>
    c.toNat < 128 && !(c = ' ' || c = '_' || c = '-')).map Char.toLower
  match rest with
  | none => plain name
  | some t => if plain t = "c" then "isc" else plain t

/-- The first place in a list of name lists that has the name. -/
def place? (name : String) (names : List (List String)) : Option Nat :=
  names.findIdx? (·.contains name)

/-- The general category, or group of them, of a name. -/
def category? : String → Option Property
  | "any" => some any
  | "assigned" => some assigned
  | "ascii" => some ascii
  | name => (Category.named.find? (·.1.contains name)).map (categories ·.2)

/-- The binary property of a name.  Three short names mean categories
instead. -/
def binary? (name : String) : Option Property :=
  if ["cf", "sc", "lc"].contains name then none
  else (place? name (BinaryProperty.all.map (·.names))).map binary

/-- The set that a single name means. -/
def named? (name : Text) : Option Property :=
  let n := normalName name
  (binary? n).or <| (category? n).or <| (place? n Script.names).map script

/-- The set that a property name and a value mean. -/
def valued? (name value : Text) : Option Property :=
  let v := normalName value
  match normalName name with
  | "gc" | "generalcategory" => category? v
  | "sc" | "script" => (place? v Script.names).map script
  | "scx" | "scriptextensions" => (place? v Script.names).map scriptExtension
  | "age" => (place? v Age.versions).map upToAge
  | _ => none

end Property

/-! ## The classes of words, digits and blanks -/

/-- Is it a character of words: a letter, a mark, a decimal digit, a
connector or a joiner? -/
def isWord (c : Char) : Bool :=
  if c.toNat < 128 then c.isAlphanum || c = '_'
  else
    BinaryProperty.alphabetic.holds c || BinaryProperty.joinControl.holds c ||
      [Category.mn, .mc, .me, .nd, .pc].contains (category c)

/-- Is it a decimal digit of any script? -/
def isDigit (c : Char) : Bool :=
  if c.toNat < 128 then c.isDigit else category c = .nd

end HeaderCheck.Unicode
