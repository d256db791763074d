/-
# Nodes

A document is a tree of scalars, sequences and mappings, in which an alias
stands for a node that was given an anchor before.

Anchored nodes are numbered in the order in which they start.  An anchor's
name leads to the slot that it was given, and a slot to the node that took
it last: a slot is numbered by how many names were in use when its anchor
was read, so that an anchor that reuses a name takes a slot which the next
new name takes over.

`Node.ofTokens` reads the tokens of a stream.  A mapping's value may be a
sequence whose items stand in the column of its key, which has no token of
its own; `node` is told whether that may be the case.  What cannot start a
node, where one may be left out, stands for the empty plain scalar.
-/
import HeaderCheck.Yaml.Layout

namespace HeaderCheck.Yaml

/-- A node of a document.  `anchor` is the number of an anchored node. -/
inductive Node where
  | scalar (anchor : Option Nat) (tag : Option Text) (style : ScalarStyle) (value : Text)
  | sequence (anchor : Option Nat) (items : List Node)
  | mapping (anchor : Option Nat) (entries : List (Node × Node))
  | alias (slot : Nat)
deriving Repr

namespace Node

/-- The empty plain scalar. -/
def blank : Node := .scalar none none .plain []

mutual

/-- The node with a given number. -/
def find? (n : Nat) : Node → Option Node
  | .scalar a g s v => if a = some n then some (.scalar a g s v) else none
  | .sequence a items => if a = some n then some (.sequence a items) else findItem? n items
  | .mapping a entries =>
      if a = some n then some (.mapping a entries) else findPair? n entries
  | .alias _ => none

/-- The node with a given number among some nodes. -/
def findItem? (n : Nat) : List Node → Option Node
  | [] => none
  | x :: xs => (find? n x).or (findItem? n xs)

/-- The node with a given number among some pairs of nodes. -/
def findPair? (n : Nat) : List (Node × Node) → Option Node
  | [] => none
  | (k, v) :: es => ((find? n k).or (find? n v)).or (findPair? n es)

end

end Node

/-- The anchors read so far: the slot of each name, and the number of the
node in each slot, the last one first. -/
structure Anchors where
  names : List (Text × Nat)
  slots : List (Nat × Nat)
deriving DecidableEq, Repr

namespace Anchors

/-- No anchors. -/
def empty : Anchors := ⟨[], []⟩

/-- Gives a node an anchor. -/
def define (a : Anchors) (name : Text) : Anchors :=
  let slot := a.names.length
  { names := (name, slot) :: a.names.filter (·.1 ≠ name)
    slots := (slot, a.slots.length) :: a.slots }

/-- The slot of a name. -/
def slot? (a : Anchors) (name : Text) : Option Nat :=
  (a.names.find? (·.1 = name)).map (·.2)

/-- The number of the node in a slot. -/
def node? (a : Anchors) (slot : Nat) : Option Nat :=
  (a.slots.find? (·.1 = slot)).map (·.2)

end Anchors

/-- A document: its root, if there is anything in it, and its anchors. -/
structure Document where
  root : Option Node
  anchors : Anchors

namespace Document

/-- The node that a node stands for. -/
def resolve (d : Document) : Node → Node
  | .alias slot =>
      (((d.anchors.node? slot).bind fun n => d.root.bind (·.find? n)).getD .blank)
  | n => n

end Document

/-! ## Reading -/

/-- How far the tokens have been read. -/
structure Reading where
  tokens : List Token
  anchors : Anchors
  handles : List (Text × Text)

/-- A step of reading. -/
abbrev Read := StateT Reading (Except Fault)

namespace Read

/-- The token that comes next. -/
def peek : Read (Option Token) := do
  return (← get).tokens.head?

/-- Takes the token that comes next. -/
def advance : Read Unit :=
  modify fun r => { r with tokens := r.tokens.tail }

/-- Takes the token that comes next if it is the given one. -/
def accept (t : Token) : Read Bool := do
  if (← peek) = some t then
    advance
    return true
  else return false

/-- Does one of some tokens come next? -/
def ahead (ts : List Token) : Read Bool := do
  match ← peek with
  | none => return false
  | some t => return ts.contains t

/-- The handles that need no directive. -/
def standardHandles : List (Text × Text) :=
  [("!".toList, "!".toList), ("!!".toList, "tag:yaml.org,2002:".toList)]

/-- The tag with a handle and a suffix. -/
def resolveTag (handle suffix : Text) : Read Text := do
  if handle.isEmpty then return suffix
  match (← get).handles.find? (·.1 = handle) with
  | some (_, address) => return address ++ suffix
  | none => throw .tagHandleUnknown

/-- What may stand in front of a node: an anchor and a tag, in either
order. -/
structure Properties where
  anchor : Option Text
  tag : Option Text

/-- Takes an anchor, if one comes next. -/
def anchor? : Read (Option Text) := do
  match ← peek with
  | some (.anchor name) =>
      advance
      return some name
  | _ => return none

/-- Takes a tag, if one comes next. -/
def tag? : Read (Option (Text × Text)) := do
  match ← peek with
  | some (.tag handle suffix) =>
      advance
      return some (handle, suffix)
  | _ => return none

/-- Takes the properties of a node. -/
def properties : Read Properties := do
  let first ← anchor?
  let tag ← tag?
  let anchor ← if first.isNone && tag.isSome then anchor? else pure first
  let tag ← match tag with
    | none => pure none
    | some (handle, suffix) => some <$> resolveTag handle suffix
  return { anchor, tag }

/-- The number of a node with certain properties. -/
def number (p : Properties) : Read (Option Nat) := do
  match p.anchor with
  | none => return none
  | some name =>
      let n := (← get).anchors.slots.length
      modify fun r => { r with anchors := r.anchors.define name }
      return some n

/-- The tag of a scalar: a lone exclamation mark is none. -/
def scalarTag (p : Properties) : Option Text :=
  p.tag.filter (· ≠ ['!'])

mutual

/-- A node.  Inside of brackets no block collection can start; where `loose`
holds, the items of a sequence may follow directly. -/
def node : (fuel : Nat) → (inFlow loose : Bool) → Read Node
  | 0, _, _ => throw .nodeMissing
  | fuel + 1, inFlow, loose => do
      match ← peek with
      | some (.alias name) =>
          advance
          match (← get).anchors.slot? name with
          | some slot => return .alias slot
          | none => throw .anchorUnknown
      | _ =>
          let p ← properties
          match ← peek with
          | some (.scalar style value) =>
              advance
              return .scalar (← number p) (scalarTag p) style value
          | some .flowSequence =>
              let n ← number p
              advance
              return .sequence n (← flowItems fuel true)
          | some .flowMapping =>
              let n ← number p
              advance
              return .mapping n (← flowEntries fuel true)
          | some .entry =>
              if loose then
                let n ← number p
                return .sequence n (← looseItems fuel)
              else missing p
          | some .blockSequence =>
              if inFlow then missing p
              else
                let n ← number p
                advance
                return .sequence n (← blockItems fuel)
          | some .blockMapping =>
              if inFlow then missing p
              else
                let n ← number p
                advance
                return .mapping n (← blockEntries fuel)
          | _ => missing p

/-- A node that has properties only. -/
def missing (p : Properties) : Read Node := do
  if p.anchor.isSome || p.tag.isSome then return .scalar (← number p) p.tag .plain []
  else throw .nodeMissing

/-- A node, or the empty scalar if one of the given tokens comes next. -/
def nodeUnless (fuel : Nat) (ts : List Token) (inFlow loose : Bool) : Read Node :=
  match fuel with
  | 0 => throw .nodeMissing
  | fuel + 1 => do
      if ← ahead ts then return .blank else node fuel inFlow loose

/-- The items of a block sequence, through its end. -/
def blockItems : (fuel : Nat) → Read (List Node)
  | 0 => throw .nodeMissing
  | fuel + 1 => do
      if ← accept .entry then
        let item ← nodeUnless fuel [.entry, .blockEnd] false false
        return item :: (← blockItems fuel)
      else if ← accept .blockEnd then return []
      else throw .entryMissing

/-- The items of a sequence without an end of its own. -/
def looseItems : (fuel : Nat) → Read (List Node)
  | 0 => throw .nodeMissing
  | fuel + 1 => do
      if ← accept .entry then
        let item ← nodeUnless fuel [.entry, .key, .value, .blockEnd] false false
        return item :: (← looseItems fuel)
      else return []

/-- The entries of a block mapping, through its end. -/
def blockEntries : (fuel : Nat) → Read (List (Node × Node))
  | 0 => throw .nodeMissing
  | fuel + 1 => do
      if ← accept .key then
        let key ← nodeUnless fuel [.key, .value, .blockEnd] false true
        let value ←
          if ← accept .value then nodeUnless fuel [.key, .value, .blockEnd] false true
          else pure .blank
        return (key, value) :: (← blockEntries fuel)
      else if ← accept .blockEnd then return []
      else throw .keyMissing

/-- The items of a sequence in brackets, through the closing one.  An item
with a key of its own is a mapping of one entry. -/
def flowItems : (fuel : Nat) → (first : Bool) → Read (List Node)
  | 0, _ => throw .nodeMissing
  | fuel + 1, first => do
      if ← accept .flowSequenceEnd then return []
      if !first then
        if !(← accept .separator) then throw .separatorMissing
      if ← accept .flowSequenceEnd then return []
      if ← accept .key then
        let entry ← flowPair fuel
        return .mapping none [entry] :: (← flowItems fuel false)
      else
        let item ← node fuel true false
        return item :: (← flowItems fuel false)

/-- The entry of a mapping without brackets.  The token behind a key that is
left out is taken with it. -/
def flowPair : (fuel : Nat) → Read (Node × Node)
  | 0 => throw .nodeMissing
  | fuel + 1 => do
      let key ←
        if ← ahead [.value, .separator, .flowSequenceEnd] then
          advance
          pure .blank
        else node fuel true false
      let value ←
        if ← accept .value then
          nodeUnless fuel [.separator, .flowSequenceEnd] true false
        else pure .blank
      return (key, value)

/-- The entries of a mapping in braces, through the closing one. -/
def flowEntries : (fuel : Nat) → (first : Bool) → Read (List (Node × Node))
  | 0, _ => throw .nodeMissing
  | fuel + 1, first => do
      if ← accept .flowMappingEnd then return []
      if !first then
        if !(← accept .separator) then throw .separatorMissing
      if ← accept .flowMappingEnd then return []
      if ← accept .key then
        let key ← nodeUnless fuel [.value, .separator, .flowMappingEnd] true false
        let value ←
          if ← accept .value then
            nodeUnless fuel [.separator, .flowMappingEnd] true false
          else pure .blank
        return (key, value) :: (← flowEntries fuel false)
      else
        let key ← node fuel true false
        return (key, .blank) :: (← flowEntries fuel false)

end

/-! ## Documents -/

/-- The directives in front of a document.  At most one may give the
version, and a handle may be given once. -/
def directives : (fuel : Nat) → (versioned : Bool) → (handles : List (Text × Text)) →
    Read (List (Text × Text))
  | 0, _, handles => return handles
  | fuel + 1, versioned, handles => do
      match ← peek with
      | some (.version major minor) =>
          if versioned then throw .directiveRepeated
          if major ≠ 1 || (minor ≠ 1 && minor ≠ 2) then throw .versionUnknown
          advance
          directives fuel true handles
      | some (.tagDirective handle address) =>
          if handles.any (·.1 = handle) then throw .directiveRepeated
          advance
          directives fuel versioned (handles ++ [(handle, address)])
      | _ => return handles

/-- Does the content of a document come next, rather than its end? -/
def hasContent : Read Bool := do
  match ← peek with
  | none => return false
  | some (.version _ _) => return false
  | some (.tagDirective _ _) => return false
  | some .documentStart => return false
  | some .documentEnd => return false
  | some _ => return true

/-- The root of a document behind its start marker. -/
def content (fuel : Nat) : Read Node := do
  if ← hasContent then node fuel false false else return .blank

/-- Takes markers of the end of a document. -/
def skipEnds : (fuel : Nat) → Read Unit
  | 0 => return
  | fuel + 1 => do
      if ← accept .documentEnd then skipEnds fuel

/-- The root of the first document; there is none if there are no tokens.
A document without a start marker has no directives. -/
def root (fuel : Nat) : Read (Option Node) := do
  if (← peek).isNone then return none
  else
    match ← peek with
    | some (.version _ _) | some (.tagDirective _ _) | some .documentStart => do
        let given ← directives fuel false []
        modify fun r => { r with handles := given ++ standardHandles }
        if !(← accept .documentStart) then throw .documentStartMissing
        return some (← content fuel)
    | _ => return some (← node fuel false false)

end Read

/-- The only document of a stream. -/
def Document.ofTokens (ts : List Token) : Except Fault Document := do
  let fuel := 4 * ts.length + 4
  let begin : Reading := { tokens := ts, anchors := .empty, handles := Read.standardHandles }
  let (root, r) ← (Read.root fuel).run begin
  let (_, r) ← (Read.skipEnds fuel).run r
  if r.tokens.isEmpty then return { root, anchors := r.anchors }
  else throw .documentRepeated

/-- The document that a text holds. -/
def Document.ofText (t : Text) : Except Fault Document := do
  Document.ofTokens (← Token.ofText t)

end HeaderCheck.Yaml
