import Supervision.Disk.Basic
import Supervision.Path

/-!
Reading files, making directories and replacing files. A file is replaced by way of a temporary
one, which is moved into place when it is complete.
-/

namespace Supervision.Disk

open PathText Text

def isReadable (mode : Nat) : Bool :=
  mode / 0o400 % 2 == 1

def readText (disk : Disk) (path : PathText) : Except Fault Text := do
  match ← disk.entry path with
  | .directory => .error .isDirectory
  | .file mode bytes =>
      if !isReadable mode then .error .denied
      else
        match String.fromUTF8? bytes with
        | some contents => .ok contents.toList
        | none => .error .notUtf8

def dropSlashes (path : PathText) : PathText :=
  (path.reverse.dropWhile (· = .char '/')).reverse

def makeDirectory (disk : Disk) (path : PathText) : Except Fault Disk := do
  let _ ← pieces path
  if (dropSlashes path).isEmpty then .error .alreadyExists
  else
    let location ← disk.place (dropSlashes path)
    match disk.tree.find? location with
    | some _ => .error .alreadyExists
    | none => .ok { disk with tree := disk.tree.put location .directory }

def ancestors : Nat → PathText → List PathText
  | 0, _ => []
  | steps + 1, path =>
      path :: match Path.parent? path with
        | some above => ancestors steps above
        | none => []

def accept (disk : Disk) (path : PathText) (fault : Fault) : Option Fault × Disk :=
  (if disk.isDirectory path then none else some fault, disk)

/-- Makes the first of a list of ancestors, and for that those above it if they are missing. What
was made stays when a later step fails. -/
def ensureFirst : List PathText → Disk → Option Fault × Disk
  | [], disk => (some .notFound, disk)
  | path :: above, disk =>
      if path.isEmpty then (none, disk)
      else
        match disk.makeDirectory path with
        | .ok made => (none, made)
        | .error .notFound =>
            match ensureFirst above disk with
            | (some fault, disk) => (some fault, disk)
            | (none, disk) =>
                match disk.makeDirectory path with
                | .ok made => (none, made)
                | .error fault => disk.accept path fault
        | .error fault => disk.accept path fault

def ensureDirectory (disk : Disk) (path : PathText) : Option Fault × Disk :=
  ensureFirst (ancestors (path.length + 1) path) disk

inductive WriteFault where
  | temporary (directory : PathText)
  /-- The file that was made cannot take the place of the path. The fault owns it. -/
  | move (path : PathText) (temporary : Location)
  deriving DecidableEq

def newFileMode : Nat := 0o644

/-- The mode of a file once something is written to it. Its program no longer runs as its owner,
nor as its group if that may run it. -/
def modeWritten (mode : Nat) : Nat :=
  if mode / 0o10 % 2 = 1 then mode % 0o2000 else mode % 0o4000

def replacedMode (disk : Disk) (path : PathText) : Nat :=
  match disk.entry path with
  | .ok (.file mode _) => mode
  | _ => newFileMode

def put (disk : Disk) (location : Location) (entry : Entry) : Disk :=
  { disk with tree := disk.tree.put location entry }

def fill (disk : Disk) (location : Location) (mode : Nat) (contents : Text) : Disk :=
  if contents.isEmpty then disk
  else disk.put location (.file (modeWritten mode) (asString contents).toUTF8)

/-- The names for temporary files. They have ten characters as long as there are no more than
nine hundred thousand such files. -/
def temporaryName (number : Nat) : PathText :=
  ofText (".tmp".toList ++ ofNat (100000 + number))

/-- The first of these names that is free in a directory. A tree has too few entries to use up as
many names as are tried. -/
def freeName (tree : FileTree) (directory : Location) : PathText :=
  let names := (List.range (tree.entries.length + 1)).map temporaryName
  (names.find? fun name => (tree.find? (directory ++ [name])).isNone).getD []

def temporaryPath (disk : Disk) (directory : PathText) : PathText :=
  Path.join (Path.join disk.workingDirectory directory) (temporaryName 0)

def takesTemporary (disk : Disk) (directory : PathText) : Bool :=
  disk.isDirectory directory && decide (byteLength (disk.temporaryPath directory) < pathLimit)

def temporaryPlace (disk : Disk) (directory : PathText) : Except Fault Location := do
  let above ← disk.locate directory
  if disk.takesTemporary directory then .ok (above ++ [freeName disk.tree above])
  else .error .notDirectory

def moveFile (disk : Disk) (source : Location) (path : PathText) : Except Fault Disk := do
  let target ← disk.place path
  match disk.tree.find? target with
  | some .directory => .error .isDirectory
  | _ => .ok { disk with tree := disk.tree.move source target }

def persist (disk : Disk) (temporary : Location) (path : PathText) : Option WriteFault × Disk :=
  match disk.moveFile temporary path with
  | .ok moved => (none, moved)
  | .error _ => (some (.move path temporary), disk)

/-- Replaces a file by way of a temporary one: that is made empty, gets the mode of the file that
is replaced, then the contents, and moves to the path. If it cannot, it is still there. -/
def replaceThrough (disk : Disk) (temporary : Location) (path : PathText) (contents : Text) :
    Option WriteFault × Disk :=
  let mode := disk.replacedMode path
  let made := disk.put temporary (.file newFileMode .empty)
  let moded := made.put temporary (.file mode .empty)
  (moded.fill temporary mode contents).persist temporary path

def replaceFile (disk : Disk) (path : PathText) (contents : Text) : Option WriteFault × Disk :=
  let directory := Path.containing path
  match disk.temporaryPlace directory with
  | .ok temporary => disk.replaceThrough temporary path contents
  | .error _ => (some (.temporary directory), disk)

def removeFile (disk : Disk) (location : Location) : Disk :=
  match disk.tree.find? location with
  | some (.file _ _) => { disk with tree := disk.tree.remove location }
  | _ => disk

def release (disk : Disk) : WriteFault → Disk
  | .temporary _ => disk
  | .move _ temporary => disk.removeFile temporary

end Supervision.Disk
