import Supervision.CommandLine.Run
import Supervision.Disk.Change

/-!
The command line on the file system of the machine.
-/

namespace Supervision.Main

open CommandLine Text

abbrev Action := ExceptT Failure IO

def attempt {α : Type} (failure : IO.Error → Failure) (action : IO α) : Action α := do
  match ← action.toBaseIO with
  | .ok found => return found
  | .error error => throw (failure error)

def faultOf : IO.Error → Fault
  | .noFileOrDirectory _ _ _ => .notFound
  | .permissionDenied _ _ _ => .denied
  | .inappropriateType _ _ _ => .isDirectory
  | error => .other error.toString.toList

def note (verbosity : Nat) (notice : Notice) : IO Unit := do
  let fields := notice.fields.map fun field => s!" {asString field.1}={asString field.2}"
  let line := asString notice.message ++ String.join fields
  match notice.level with
  | .warning => IO.eprintln ("WARN " ++ line)
  | .information => if 0 < verbosity then IO.eprintln ("INFO " ++ line)

def name (path : PathText) : String :=
  asString path.shown

def ensureDirectory (path : PathText) : Action Unit :=
  attempt (fun _ => .cannotCreateDirectory path) (IO.FS.createDirAll (name path))

/-- The contents are complete when they move into place. The mode of the file that was there is not
taken over: nothing here tells the mode of a file. -/
def replaceFile (path : PathText) (contents : Text) : Action Unit := do
  let directory := Path.containing path
  let number ← IO.rand 0 899999
  let temporary := name (Path.join directory (Disk.temporaryName number))
  let file ← attempt (fun _ => .cannotCreateTemporary directory)
    (IO.FS.Handle.mk temporary .writeNew)
  let complete : IO Unit := do
    file.putStr (asString contents)
    file.flush
    IO.FS.rename temporary (name path)
  match ← complete.toBaseIO with
  | .ok _ => return
  | .error _ =>
      let _ ← (IO.FS.removeFile temporary).toBaseIO
      throw (.cannotMove path)

def readText (path : PathText) : Action Text := do
  let bytes ← attempt (fun error => .unreadableOptions path (faultOf error))
    (IO.FS.readBinFile (name path))
  match String.fromUTF8? bytes with
  | some contents => return contents.toList
  | none => throw (.unreadableOptions path .notUtf8)

def shell (verbosity : Nat) : Shell IO where
  ensureDirectory := ensureDirectory
  replaceFile := replaceFile
  install := announceOnly (note verbosity)
  note := note verbosity
  readText := readText
  workingDirectory := do
    let directory ← attempt (fun _ => .noWorkingDirectory) IO.currentDir
    return PathText.ofText directory.toString.toList
  print := fun text => IO.print (asString text)

def usage : String :=
  "usage: (render | generate [--json]) [--options FILE] [--set KEY=VALUE] [--base-dir DIR]" ++
    " [--name NAME] [-v]"

end Supervision.Main

open Supervision in
def main (arguments : List String) : IO UInt32 := do
  let arguments := arguments.map String.toList
  match CommandLine.parse arguments with
  | none =>
      IO.eprintln Main.usage
      return 2
  | some command =>
      match ← (command.run (Main.shell (CommandLine.verbosity arguments))).run with
      | .ok _ => return 0
      | .error failure =>
          IO.eprintln ("Error: " ++ Text.asString failure.message)
          for cause in failure.causes do
            IO.eprintln ("Caused by: " ++ Text.asString cause)
          return 1
