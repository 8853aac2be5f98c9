import Supervision.Path
import Supervision.Record.Extras
import Supervision.Record.Line

/-!
Program lines: `priority name (settings) command [arguments] directory flag user`, of which the
settings in parentheses and all that follows the command may be left out.
-/

namespace Supervision

structure Program where
  priority : Text
  name : Text
  command : Text
  arguments : Option Text
  directory : Option Text
  redirectStderr : Bool
  user : Option Text
  extras : Extras
  deriving DecidableEq

namespace Reader

def settings : Reader Extras := fun text =>
  match spaced (delimited '(' ')') text with
  | some (block, rest) => some (Extras.parse block, rest)
  | none => some (Extras.empty, text)

def arguments : Reader (Option Text) :=
  maybe (spaced (delimited '[' ']'))

def isFlag (word : Text) : Bool :=
  word == "true".toList || word == "false".toList

def opensBracket (word : Text) : Bool :=
  word.head? == some '['

end Reader

namespace Program

open Reader

def reader : Reader Program := do
  let priority ← digits
  gap
  let name ← word
  let extras ← settings
  gap
  let command ← word
  let arguments ← Reader.arguments
  let directory ← maybe (spaced (wordWhere fun found => !isFlag found && !opensBracket found))
  let flag ← maybe (spaced (wordWhere isFlag))
  let user ← maybe (spaced (wordWhere fun found => !opensBracket found))
  return {
    priority, name, command, arguments, directory, user, extras
    redirectStderr := flag == some "true".toList }

/-- The directory of the line, else the directory part of the command if it has one. -/
def workingDirectory (program : Program) : Option Text :=
  match program.directory with
  | some directory => some directory
  | none => (some (Path.dirname program.command)).filter fun directory => !directory.isEmpty

end Program

end Supervision
