/-
# Replacing a file

The new text of a file is written to a temporary file beside it, which is
then moved over it, so that the file holds its old text or its new one at
any time.  A temporary file that cannot be moved is removed.
-/
import HeaderCheck.Failure
import HeaderCheck.FileTree.Access

namespace HeaderCheck

/-- The path of the temporary file for a path, if that has a file name. -/
def Path.temporary? (p : Path) : Option Path :=
  p.fileName?.map fun name => p.directory.join ('.' :: name ++ ".tmp".toList)

/-- The tree with the text of a file replaced, and what went wrong if it
could not be. -/
def FileTree.replace (t : FileTree) (p : Path) (text : Text) : Except Failure Unit × FileTree :=
  match p.temporary? with
  | none => (.error (.pathUnnamed p), t)
  | some temporary =>
      match t.write temporary text with
      | .error fault => (.error (.temporaryUnwritten temporary fault), t)
      | .ok written =>
          match written.move temporary p with
          | .ok moved => (.ok (), moved)
          | .error fault => (.error (.notReplaced p fault), written.remove temporary)

end HeaderCheck
