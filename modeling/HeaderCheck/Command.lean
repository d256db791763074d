/-
# Running a command

One entry for all commands, so that a program has only to read its words
and to print what comes of them.
-/
import HeaderCheck.Command.Check
import HeaderCheck.Command.Fix
import HeaderCheck.Command.Init

namespace HeaderCheck

/-- Runs what a command line asks for. -/
def Invocation.run (i : Invocation) (t : FileTree) : Command.Outcome :=
  match i with
  | .check paths options json => Command.check t paths options json
  | .fix paths options => Command.fix t paths options
  | .init pattern template force => Command.init t pattern template force

end HeaderCheck
