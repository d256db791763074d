/-
# The program

Takes from the disk what a command line is about as a file tree, runs the
command on the tree, puts on the disk what the command changed, and prints
what comes of it.  What a run means is decided by `Invocation.run`; this
module only carries bytes.

Directories are taken first without the bytes of their files, and then the
bytes of those files that the run will read, so that a file which no check
looks at is never opened.
-/
import HeaderCheck.Command
import HeaderCheck.CommandLine.Help

namespace HeaderCheck.Disk

/-! ## From the disk -/

/-- The absolute name of a place. -/
def name (l : Location) : String :=
  "/" ++ "/".intercalate (l.map String.ofList)

/-- The place with an absolute name. -/
def place (name : String) : Location :=
  FileTree.steps name.toList

/-- What is at a place, with the bytes of a file if they are asked for.  A
link is given the absolute name that it leads to in the end, and is passed
over if it leads nowhere, as is anything that is neither a file nor a
directory. -/
def entry (l : Location) (bytes : Bool) : IO (Option Entry) := do
  let path := (← IO.currentDir) / name l
  let kind : Option IO.FS.FileType ←
    try pure (some (← path.symlinkMetadata).type) catch _ => pure none
  match kind with
  | some .dir => return some .directory
  | some .file => return some (.file (← if bytes then IO.FS.readBinFile path else pure .empty))
  | some .symlink =>
      if ← path.pathExists then return some (.link (← IO.FS.realPath path).toString.toList)
      else return none
  | _ => return none

/-- Takes the entries that names lead through, and answers where the names
end. -/
partial def takeWay (t : FileTree) (l : Location) : List Text → IO (FileTree × Location)
  | [] => return (t, l)
  | n :: rest => do
      if n = ['.'] then takeWay t l rest
      else if n = ['.', '.'] then takeWay t l.dropLast rest
      else
        let here := l ++ [n]
        match ← entry here rest.isEmpty with
        | none => return (t, here)
        | some (.link target) =>
            let (t, reached) ← takeWay (t.put here (.link target)) [] (FileTree.steps target)
            takeWay t reached rest
        | some e => takeWay (t.put here e) here rest

/-- Takes the entries that a path leads through. -/
def takePath (t : FileTree) (p : Path) : IO (FileTree × Location) :=
  takeWay t (t.origin p.spelling) (FileTree.steps p.spelling)

/-- The entries below a directory, without the bytes of files. -/
partial def below (l : Location) : IO (List (Location × Entry)) := do
  let path := (← IO.currentDir) / name l
  let mut found := []
  for child in ← path.readDir do
    let here := l ++ [child.fileName.toList]
    match ← entry here false with
    | none => pure ()
    | some .directory => found := (here, .directory) :: (← below here) ++ found
    | some e => found := (here, e) :: found
  return found

/-- Takes what a named path leads to, with what is below a directory. -/
def takeNamed (t : FileTree) (p : Path) : IO FileTree := do
  let (t, l) ← takePath t p
  if t.at? l = some .directory then
    let known := t.entries.map (·.1)
    return { t with entries := t.entries ++ (← below l).filter (!known.contains ·.1) }
  else return t

/-- Takes a file that will be read, and the temporary file beside it. -/
def takeFile (t : FileTree) (p : Path) : IO FileTree := do
  let (t, _) ← takePath t p
  match p.temporary? with
  | some temporary => return (← takePath t temporary).1
  | none => return t

/-- Takes what a run over named paths is about. -/
def takeSources (t : FileTree) (paths : List Path) (o : RuleOptions) : IO FileTree := do
  let (t, _) ← takePath t (o.config.getD configFile)
  let t ← paths.foldlM takeNamed t
  match Command.effectiveConfig t o >>= Command.sources t paths with
  | .ok files => files.foldlM takeFile t
  | .error _ => return t

/-- Takes what a command line is about. -/
def take (i : Invocation) : IO FileTree := do
  let current := place (← IO.FS.realPath (← IO.currentDir)).toString
  let (t, _) ← takeWay { entries := [], current } [] current
  match i with
  | .check paths o _ => takeSources t paths o
  | .fix paths o => takeSources t paths o
  | .init _ _ _ => takeFile t configFile

/-! ## To the disk -/

/-- Puts a file at a place, which holds its old bytes or the new ones at
any time. -/
def putFile (l : Location) (content : ByteArray) : IO Unit := do
  let temporary := l.dropLast ++ ['.' :: l.getLast?.getD [] ++ ".tmp".toList]
  IO.FS.writeBinFile (name temporary) content
  IO.FS.rename (name temporary) (name l)

/-- Puts on the disk what differs between two trees. -/
def put (before after : FileTree) : IO Unit := do
  for (l, e) in after.entries do
    if let .file content := e then
      if before.at? l ≠ some e then putFile l content
  for (l, _) in before.entries do
    if (after.at? l).isNone && (← entry l false).isSome then IO.FS.removeFile (name l)

end HeaderCheck.Disk

namespace HeaderCheck

/-- Runs what a command line asks for, and answers the exit code. -/
def Invocation.perform (i : Invocation) : IO Nat := do
  let before ← Disk.take i
  let outcome := i.run before
  Disk.put before outcome.tree
  IO.print outcome.output
  IO.eprint outcome.warnings
  match outcome.result with
  | .ok () => return exitSuccess
  | .error failure =>
      IO.eprintln ("Error: " ++ failure.message)
      return failure.exitCode

end HeaderCheck

open HeaderCheck in
/-- The program: answers a command line that asks for nothing, and runs
what any other one asks for. -/
def main (args : List String) : IO UInt32 := do
  match Invocation.ofWords (args.map String.toList) with
  | .error usage =>
      if usage.exitCode = exitSuccess then IO.print usage.answer
      else IO.eprint usage.answer
      return usage.exitCode.toUInt32
  | .ok i =>
      try return (← i.perform).toUInt32
      catch e =>
        IO.eprintln ("Error: " ++ toString e)
        return 1
