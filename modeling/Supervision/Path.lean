import Supervision.Path.Letter

/-!
Slash-separated paths, kept as written. Two paths are the same path if they have the same
components: repeated slashes, slashes at the end and single dots do not count, a leading dot does.
-/

namespace Supervision.Path

open Text

def isAbsolute (path : PathText) : Bool :=
  path.head? == some (.char '/')

/-- The part of a path that stands before its components: the root, a leading single dot, or
nothing. -/
def anchor : PathText → PathText
  | .char '/' :: _ => [.char '/']
  | .char '.' :: .char '/' :: _ => [.char '.']
  | [.char '.'] => [.char '.']
  | _ => []

/-- Removes slashes and single dots from the front of a path written backwards. -/
def dropSilent : PathText → PathText
  | .char '/' :: rest => dropSilent rest
  | .char '.' :: .char '/' :: rest => dropSilent rest
  | [.char '.'] => []
  | path => path

def join (base path : PathText) : PathText :=
  if isAbsolute path then path
  else if base.isEmpty || base.getLast? == some (.char '/') then base ++ path
  else base ++ .char '/' :: path

/-- The path without its last component, otherwise as written. The empty path and the root have
none. -/
def parent? (path : PathText) : Option PathText :=
  let start := anchor path
  match dropSilent (path.drop start.length).reverse with
  | [] => if start = [.char '.'] then some [] else none
  | body => some (start ++ (dropSilent (body.dropWhile (· ≠ .char '/'))).reverse)

inductive Component where
  | root
  | here
  | up
  | name (text : PathText)
  deriving DecidableEq

def componentOf (piece : PathText) : Option Component :=
  if piece = [] ∨ piece = [.char '.'] then none
  else if piece = [.char '.', .char '.'] then some .up
  else some (.name piece)

def components (path : PathText) : List Component :=
  let body := (splitWhere (· = .char '/') path).filterMap componentOf
  match anchor path with
  | [.char '/'] => .root :: body
  | [.char '.'] => .here :: body
  | _ => body

def same (left right : PathText) : Bool :=
  components left == components right

def containing (file : PathText) : PathText :=
  match parent? file with
  | none => [.char '.']
  | some [] => [.char '.']
  | some directory => directory

def addNew (directories : List PathText) (directory : PathText) : List PathText :=
  if directories.any (same directory) then directories else directories ++ [directory]

/-- The text up to the last slash, without the slashes at its end unless it is all slashes. -/
def dirname (path : Text) : Text :=
  let head := path.reverse.dropWhile (· ≠ '/')
  if head.all (· = '/') then head else (head.dropWhile (· = '/')).reverse

end Supervision.Path
