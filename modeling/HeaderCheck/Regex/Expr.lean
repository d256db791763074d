/-
# Regular expressions and their matches

An expression is what a pattern means once its notation is resolved: sets
of characters, tests on the place between two characters, sequence, choice
and counted repetition.  Whether a text has a match is decided by running
over the text once with the list of all expressions that may still match
what is left of it.

Two functions carry this.  `accepts` says whether an expression matches the
empty text at a place, and `residuals` lists, for a character that comes
next, the expressions that have to match after it.  Both look at the place
— the characters on its two sides — since a test may succeed at one place
and fail at the next.  For a repeated expression this matters twice: a body
that accepts the place may be passed through any number of times without
consuming anything, and so the lower bound of the repetition disappears
with the first character that is consumed there.
-/
import HeaderCheck.Regex.CharSet

namespace HeaderCheck.Regex

open HeaderCheck.Unicode

/-- A place in a text: the characters before and after it. -/
structure Place where
  before : Option Char
  after : Option Char
deriving DecidableEq, Repr

/-- The tests that look at a place without consuming anything. -/
inductive Test where
  | textStart
  | textEnd
  | lineStart
  | lineEnd
  | lineStartAnyBreak
  | lineEndAnyBreak
  | wordEdge (unicode : Bool)
  | noWordEdge (unicode : Bool)
  | wordStart (unicode : Bool)
  | wordEnd (unicode : Bool)
  | noWordBefore (unicode : Bool)
  | noWordAfter (unicode : Bool)
deriving DecidableEq, Repr

/-- Is there a character of words on one side of a place? -/
def wordAt (unicode : Bool) : Option Char → Bool
  | none => false
  | some c => (if unicode then CharSet.word else CharSet.asciiWord).mem c

/-- Does a test succeed at a place? -/
def Test.succeeds (p : Place) : Test → Bool
  | textStart => p.before.isNone
  | textEnd => p.after.isNone
  | lineStart => p.before.isNone || p.before = some '\n'
  | lineEnd => p.after.isNone || p.after = some '\n'
  | lineStartAnyBreak =>
      p.before.isNone || p.before = some '\n' ||
        (p.before = some '\r' && p.after ≠ some '\n')
  | lineEndAnyBreak =>
      p.after.isNone || p.after = some '\r' ||
        (p.after = some '\n' && p.before ≠ some '\r')
  | wordEdge u => wordAt u p.before != wordAt u p.after
  | noWordEdge u => wordAt u p.before == wordAt u p.after
  | wordStart u => !wordAt u p.before && wordAt u p.after
  | wordEnd u => wordAt u p.before && !wordAt u p.after
  | noWordBefore u => !wordAt u p.before
  | noWordAfter u => !wordAt u p.after

/-- A regular expression.  `rep r least most` repeats `r` at least `least`
times and, if there is a bound, at most `most` times. -/
inductive Expr where
  | empty
  | char (s : CharSet)
  | test (t : Test)
  | seq (r s : Expr)
  | alt (r s : Expr)
  | rep (r : Expr) (least : Nat) (most : Option Nat)
deriving DecidableEq, Repr

namespace Expr

/-- Does the expression match the empty text at a place? -/
def accepts (p : Place) : Expr → Bool
  | empty => true
  | char _ => false
  | test t => t.succeeds p
  | seq r s => r.accepts p && s.accepts p
  | alt r s => r.accepts p || s.accepts p
  | rep r least _ => least = 0 || r.accepts p

/-- The sequence of two expressions, the empty one left out. -/
def andThen : Expr → Expr → Expr
  | empty, s => s
  | r, s => seq r s

/-- What may have to match after the character `c` that follows a place. -/
def residuals (p : Place) (c : Char) : Expr → List Expr
  | empty => []
  | char s => if s.mem c then [empty] else []
  | test _ => []
  | seq r s =>
      let first := (r.residuals p c).map (·.andThen s)
      if r.accepts p then first ++ s.residuals p c else first
  | alt r s => r.residuals p c ++ s.residuals p c
  | rep r least most =>
      if most = some 0 then []
      else
        let least := if r.accepts p then 0 else least - 1
        let again := rep r least (most.map (· - 1))
        (r.residuals p c).map (·.andThen again)

/-- The expressions of a list, each once. -/
def distinct (rs : List Expr) : List Expr :=
  rs.foldl (fun seen r => if seen.contains r then seen else r :: seen) []

/-- Does `start` match somewhere in a text, or one of the `live`
expressions at its beginning?  `before` is the character that precedes the
text. -/
def searchFrom (start : Expr) (before : Option Char) (live : List Expr) : Text → Bool
  | [] => (start :: live).any (·.accepts { before, after := none })
  | c :: t =>
      let place : Place := { before, after := some c }
      (start :: live).any (·.accepts place) ||
        searchFrom start (some c)
          (distinct ((start :: live).flatMap (·.residuals place c))) t

/-- Does the expression match some part of a text? -/
def search (r : Expr) (t : Text) : Bool :=
  r.searchFrom none [] t

end Expr

end HeaderCheck.Regex
