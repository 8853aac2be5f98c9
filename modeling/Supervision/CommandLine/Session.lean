import Supervision.CommandLine.Run
import Supervision.Disk.Change

/-!
Whole runs of the command line on a disk.
-/

namespace Supervision.CommandLine

structure Session where
  disk : Disk
  output : Text
  notices : List Notice

namespace Session

abbrev Action := ExceptT Failure (StateM Session)

def start (disk : Disk) : Session := ⟨disk, [], []⟩

def note (notice : Notice) : StateM Session Unit :=
  modify fun session => { session with notices := session.notices ++ [notice] }

def ensureDirectory (path : PathText) : Action Unit := do
  let session ← get
  let (fault, disk) := session.disk.ensureDirectory path
  set { session with disk }
  if fault.isSome then throw (.cannotCreateDirectory path)

def writeFailure : Disk.WriteFault → Failure
  | .temporary directory => .cannotCreateTemporary directory
  | .move path _ => .cannotMove path

/-- The fault is released here and not where the run ends, in between nothing looks at the disk. -/
def replaceFile (path : PathText) (contents : Text) : Action Unit := do
  let session ← get
  match session.disk.replaceFile path contents with
  | (none, disk) => set { session with disk }
  | (some fault, disk) =>
      set { session with disk := disk.release fault }
      throw (writeFailure fault)

def readText (path : PathText) : Action Text := do
  let session ← get
  orThrow (.unreadableOptions path) (session.disk.readText path)

def print (text : Text) : StateM Session Unit :=
  modify fun session => { session with output := session.output ++ text }

/-- Nothing is installed but by logging it. -/
def shell : Shell (StateM Session) where
  ensureDirectory := ensureDirectory
  replaceFile := replaceFile
  install := announceOnly note
  note := note
  readText := readText
  workingDirectory := return (← get).disk.workingDirectory
  print := print

end Session

structure Outcome where
  code : Nat
  failure : Option Failure
  session : Session

def run (arguments : List Text) (disk : Disk) : Outcome :=
  match parse arguments with
  | none => { code := 2, failure := none, session := Session.start disk }
  | some command =>
      match (command.run Session.shell).run.run (Session.start disk) with
      | (.ok _, session) => { code := 0, failure := none, session }
      | (.error failure, session) => { code := 1, failure := some failure, session }

/-- The line in which a failure is told, as far as the first line end of its message. -/
def errorLine (failure : Failure) : Text :=
  Text.dropReturn ("Error: ".toList ++ failure.message.takeWhile (· ≠ '\n'))

end Supervision.CommandLine
