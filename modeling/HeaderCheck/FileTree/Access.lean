/-
# Reading and changing a tree

The operations that the commands need: what kind of entry a path leads to,
the bytes and the text of a file, creating a file or writing over it,
moving an entry to another name, and removing one.  Reading and writing
follow links; moving and removing act on the entry of the name itself.
-/
import HeaderCheck.FileTree.Resolve

namespace HeaderCheck

/-- The UTF-8 form of a text. -/
def Text.encode (t : Text) : ByteArray :=
  (String.ofList t).toUTF8

/-- The text with a given UTF-8 form. -/
def Text.decode? (b : ByteArray) : Option Text :=
  (String.fromUTF8? b).map (·.toList)

theorem Text.decode?_encode (t : Text) : decode? (encode t) = some t := by
  have h : (encode t).IsValidUTF8 := (String.ofList t).isValidUTF8
  have e : String.fromUTF8 (encode t) h = String.ofList t := rfl
  simp [decode?, String.fromUTF8?, h, e]

namespace FileTree

/-- The entry that a path leads to. -/
def lookup? (t : FileTree) (p : Path) : Option Entry :=
  match t.resolve p with
  | .ok (.found _ e) => some e
  | _ => none

/-- Does a path lead to anything? -/
def exists? (t : FileTree) (p : Path) : Bool :=
  (t.lookup? p).isSome

/-- Does a path lead to a file? -/
def isFile (t : FileTree) (p : Path) : Bool :=
  match t.lookup? p with
  | some (.file _) => true
  | _ => false

/-- Does a path lead to a directory? -/
def isDirectory (t : FileTree) (p : Path) : Bool :=
  match t.lookup? p with
  | some .directory => true
  | _ => false

/-- The bytes of the file that a path leads to. -/
def read (t : FileTree) (p : Path) : Except Fault ByteArray := do
  match ← t.resolve p with
  | .found _ (.file content) => return content
  | .found _ _ => throw .isDirectory
  | .absent _ => throw .notFound

/-- The text of the file that a path leads to. -/
def readText (t : FileTree) (p : Path) : Except Fault Text := do
  match Text.decode? (← t.read p) with
  | some text => return text
  | none => throw .notText

/-- Writes a text to the file that a path leads to, which is created if its
name is not there. -/
def write (t : FileTree) (p : Path) (text : Text) : Except Fault FileTree := do
  match ← t.resolve p with
  | .found _ .directory => throw .isDirectory
  | .found l _ => return t.put l (.file text.encode)
  | .absent l => return t.put l (.file text.encode)

/-- Moves the entry of one name to another, over what is there.  Only a
directory may be asked for by a slash at the end, and only a directory may
take the place of one. -/
def move (t : FileTree) (source target : Path) : Except Fault FileTree := do
  let (l, _) ← t.resolveName source
  let (m, slash) ← t.resolveName target
  match t.at? l with
  | none => throw .notFound
  | some e =>
      if slash then throw .notDirectory
      else if t.at? m = some .directory then throw .isDirectory
      else return (t.erase l).put m e

/-- Removes the entry of a name, if it is there and no directory. -/
def remove (t : FileTree) (p : Path) : FileTree :=
  match t.resolveName p with
  | .ok (l, _) => if t.at? l = some .directory then t else t.erase l
  | .error _ => t

end FileTree

end HeaderCheck
