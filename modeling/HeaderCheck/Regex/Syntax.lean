/-
# The notation of patterns

The tree that a pattern is read into, before its flags are resolved.  A
sequence or a choice of several parts is nested to the right, so that the
parts of one choice form one chain; nesting depth counts such a chain once,
which is why `depth` carries along whether it is inside of one.
-/
import HeaderCheck.Text.Basic

namespace HeaderCheck.Regex

/-- The flags that a pattern can set.  Two of them — the preference for
short matches and the verbose notation — have no bearing on what
matches. -/
inductive Flag where
  | ignoreCase
  | multiLine
  | dotAll
  | swapGreed
  | unicode
  | anyBreak
  | verbose
deriving DecidableEq, Repr

/-- Flags with the value they are given. -/
abbrev FlagChanges := List (Flag × Bool)

/-- The value that a list of changes gives to a flag. -/
def FlagChanges.value? (fs : FlagChanges) (f : Flag) : Option Bool :=
  (List.find? (·.1 = f) fs).map (·.2)

/-- The tests in the notation of patterns. -/
inductive Assertion where
  | caret
  | dollar
  | textStart
  | textEnd
  | wordEdge
  | noWordEdge
  | wordStart
  | wordEnd
  | noWordBefore
  | noWordAfter
deriving DecidableEq, Repr

/-- The classes with a letter of their own. -/
inductive LetterClass where
  | digit
  | blank
  | word
deriving DecidableEq, Repr

/-- How a property class names its set. -/
inductive PropertyName where
  | single (name : Text)
  | valued (name value : Text)
deriving DecidableEq, Repr

/-- A character as written: `asByte` marks the two-digit hexadecimal form,
which outside of Unicode mode means a byte. -/
structure Literal where
  char : Char
  asByte : Bool
deriving DecidableEq, Repr

/-- What a single escape or character can stand for. -/
inductive Atom where
  | literal (l : Literal)
  | assertion (a : Assertion)
  | letter (k : LetterClass) (negated : Bool)
  | property (n : PropertyName) (negated : Bool)
deriving DecidableEq, Repr

/-- The operators between sets. -/
inductive SetOp where
  | inter
  | diff
  | symmDiff
deriving DecidableEq, Repr

/-- A character class between brackets. -/
inductive ClassSet where
  | empty
  | literal (l : Literal)
  | range (first last : Literal)
  | named (name : String) (negated : Bool)
  | letter (k : LetterClass) (negated : Bool)
  | property (n : PropertyName) (negated : Bool)
  | bracket (negated : Bool) (s : ClassSet)
  | union (s t : ClassSet)
  | op (k : SetOp) (s t : ClassSet)
deriving DecidableEq, Repr

/-- The union of several items, the last first. -/
def ClassSet.ofItems : List ClassSet → ClassSet
  | [] => .empty
  | s :: t => t.foldl (fun acc i => .union i acc) s

/-- A pattern as written. -/
inductive Ast where
  | empty
  | flags (fs : FlagChanges)
  | literal (l : Literal)
  | dot
  | assertion (a : Assertion)
  | letter (k : LetterClass) (negated : Bool)
  | property (n : PropertyName) (negated : Bool)
  | set (s : ClassSet)
  | rep (a : Ast) (least : Nat) (most : Option Nat)
  | group (fs : FlagChanges) (a : Ast)
  | seq (a b : Ast)
  | alt (a b : Ast)
deriving DecidableEq, Repr

namespace Ast

/-- The tree of an atom. -/
def ofAtom : Atom → Ast
  | .literal l => .literal l
  | .assertion a => .assertion a
  | .letter k n => .letter k n
  | .property p n => .property p n

/-- The sequence of several parts, the last first. -/
def ofParts : List Ast → Ast
  | [] => .empty
  | a :: t => t.foldl (fun acc i => .seq i acc) a

/-- The choice between several branches, the last first. -/
def ofBranches : List Ast → Ast
  | [] => .empty
  | a :: t => t.foldl (fun acc i => .alt i acc) a

end Ast

/-! ## Depth -/

/-- The nesting depth of a class; `chained` says that it continues a
union. -/
def ClassSet.depth (chained : Bool) : ClassSet → Nat
  | .bracket _ s => s.depth false + 1
  | .union s t => max (s.depth false) (t.depth true) + (if chained then 0 else 1)
  | .op _ s t => max (s.depth false) (t.depth false) + 1
  | _ => 0

/-- What a tree can continue. -/
inductive Chain where
  | none
  | seq
  | alt
deriving DecidableEq, Repr

/-- The nesting depth of a pattern; `chain` says what it continues. -/
def Ast.depth (chain : Chain) : Ast → Nat
  | .set s => s.depth false
  | .rep a _ _ => a.depth .none + 1
  | .group _ a => a.depth .none + 1
  | .seq a b => max (a.depth .none) (b.depth .seq) + (if chain = .seq then 0 else 1)
  | .alt a b => max (a.depth .none) (b.depth .alt) + (if chain = .alt then 0 else 1)
  | _ => 0

end HeaderCheck.Regex
