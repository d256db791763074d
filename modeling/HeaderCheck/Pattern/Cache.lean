/-
# A cache of compiled patterns

A session compiles each pattern once.  The cache holds the patterns in the
order in which they were first asked for, and the place of a pattern in it
is what identifies the shared object: asking again for the same source
gives the same place.  A source that does not compile leaves the cache as
it is.
-/
import HeaderCheck.Pattern.Compile

namespace HeaderCheck

/-- The patterns compiled so far, the oldest first. -/
structure Pattern.Cache where
  entries : List Pattern

namespace Pattern.Cache

/-- The cache at the start of a session. -/
def empty : Pattern.Cache := ⟨[]⟩

/-- The number of patterns compiled so far. -/
def size (c : Pattern.Cache) : Nat :=
  c.entries.length

/-- Has nothing been compiled yet? -/
def isEmpty (c : Pattern.Cache) : Bool :=
  c.size = 0

/-- The place of a source among some patterns, and its pattern. -/
def locate? (source : Text) : List Pattern → Option (Nat × Pattern)
  | [] => none
  | p :: ps =>
      if p.source = source then some (0, p)
      else (locate? source ps).map fun (i, q) => (i + 1, q)

/-- The pattern for a source with its place in the cache, compiled if it is
not there yet, and the cache afterwards. -/
def compile (c : Pattern.Cache) (source : Text) :
    Except Regex.Fault (Nat × Pattern) × Pattern.Cache :=
  match locate? source c.entries with
  | some found => (.ok found, c)
  | none =>
      match Pattern.compile source with
      | .ok p => (.ok (c.size, p), ⟨c.entries ++ [p]⟩)
      | .error f => (.error f, c)

end Pattern.Cache

end HeaderCheck
