import Supervision.Path.Letter
import Supervision.Text.Order

/-!
Trees of directories and regular files, and how a path leads to a place in one.
-/

namespace Supervision

/-- A place in a tree: the names on the way to it from the root, which is itself the empty list. -/
abbrev Location := List PathText

inductive Entry where
  | directory
  | file (mode : Nat) (bytes : ByteArray)

structure FileTree where
  entries : List (Location × Entry)

namespace FileTree

def empty : FileTree := ⟨[]⟩

def find? (tree : FileTree) (location : Location) : Option Entry :=
  if location.isEmpty then some .directory else tree.entries.lookup location

def putEntry (location : Location) (entry : Entry) :
    List (Location × Entry) → List (Location × Entry)
  | [] => [(location, entry)]
  | first :: others =>
      if first.1 = location then (location, entry) :: others
      else first :: putEntry location entry others

def put (tree : FileTree) (location : Location) (entry : Entry) : FileTree :=
  ⟨putEntry location entry tree.entries⟩

def remove (tree : FileTree) (location : Location) : FileTree :=
  ⟨tree.entries.filter fun entry => entry.1 ≠ location⟩

def move (tree : FileTree) (source target : Location) : FileTree :=
  match tree.find? source with
  | some entry => (tree.remove source).put target entry
  | none => tree

def putDirectories (tree : FileTree) (location : Location) : FileTree :=
  ((List.range (location.length + 1)).map location.take).foldl
    (fun tree above => if (tree.find? above).isNone then tree.put above .directory else tree) tree

/-- The entries below a location under their paths from there as they are shown, in the order of
these. -/
def below (tree : FileTree) (location : Location) : List (Text × Entry) :=
  let inside := tree.entries.filter fun entry =>
    location.isPrefixOf entry.1 && entry.1.length != location.length
  let named := inside.map fun entry =>
    (PathText.shown ([.char '/'].intercalate (entry.1.drop location.length)), entry.2)
  named.mergeSort fun left right => Text.notAfter left.1 right.1

end FileTree

inductive Fault where
  | notFound
  | denied
  | alreadyExists
  | notDirectory
  | isDirectory
  | nameTooLong
  | nulInName
  | notUtf8
  | other (text : Text)
  deriving DecidableEq

def Fault.message : Fault → Text
  | .notFound => "No such file or directory (os error 2)"
  | .denied => "Permission denied (os error 13)"
  | .alreadyExists => "File exists (os error 17)"
  | .notDirectory => "Not a directory (os error 20)"
  | .isDirectory => "Is a directory (os error 21)"
  | .nameTooLong => "File name too long (os error 36)"
  | .nulInName => "file name contained an unexpected NUL byte"
  | .notUtf8 => "stream did not contain valid UTF-8"
  | .other text => text

structure Disk where
  tree : FileTree
  here : Location

namespace Disk

open PathText Text

def nameLimit : Nat := 255

def pathLimit : Nat := 4096

def enter (location : Location) (piece : PathText) : Except Fault Location :=
  if piece = [] ∨ piece = [.char '.'] then .ok location
  else if piece = [.char '.', .char '.'] then .ok location.dropLast
  else if nameLimit < byteLength piece then .error .nameTooLong
  else .ok (location ++ [piece])

/-- Follows the pieces of a path between its slashes. Each piece, also an empty one or a dot, needs
a directory to start from. -/
def walk (tree : FileTree) : Location → List PathText → Except Fault Location
  | location, [] => .ok location
  | location, piece :: pieces =>
      match tree.find? location with
      | none => .error .notFound
      | some (.file _ _) => .error .notDirectory
      | some .directory => do walk tree (← enter location piece) pieces

def pieces (path : PathText) : Except Fault (List PathText) :=
  if path.contains (.char '\x00') then .error .nulInName
  else if path.isEmpty then .error .notFound
  else if pathLimit ≤ byteLength path then .error .nameTooLong
  else .ok (splitWhere (· = .char '/') path)

def start (disk : Disk) (path : PathText) : Location :=
  if path.head? = some (.char '/') then [] else disk.here

def locate (disk : Disk) (path : PathText) : Except Fault Location := do
  walk disk.tree (disk.start path) (← pieces path)

def entry (disk : Disk) (path : PathText) : Except Fault Entry := do
  let location ← disk.locate path
  match disk.tree.find? location with
  | some entry => .ok entry
  | none => .error .notFound

def isDirectory (disk : Disk) (path : PathText) : Bool :=
  match disk.entry path with
  | .ok .directory => true
  | _ => false

def place (disk : Disk) (path : PathText) : Except Fault Location := do
  let pieces ← pieces path
  let name := pieces.getLast?.getD []
  let above ← walk disk.tree (disk.start path) (pieces.dropLast ++ [[]])
  if name = [] ∨ name = [.char '.'] ∨ name = [.char '.', .char '.'] then .error .alreadyExists
  else enter above name

def workingDirectory (disk : Disk) : PathText :=
  .char '/' :: [.char '/'].intercalate disk.here

end Disk

end Supervision
