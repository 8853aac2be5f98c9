import Supervision.Toml.Statement

/-!
TOML documents: the statements of a text, taken one after the other, make up a table.
-/

namespace Supervision.Toml

/-- A document that is being read: the tables that are finished, and the one that pairs go to. -/
structure Draft where
  root : Children
  isList : Bool
  path : List Text
  current : Children

namespace Draft

def start : Draft := ⟨[], false, [], []⟩

/-- Puts a finished table under its key: at the end of a list of tables, or where none is yet. -/
def place (isList : Bool) (key : Text) (finished : Node) (children : Children) :
    Option (Unit × Children) :=
  match isList, children.lookup key with
  | true, none => some ((), children ++ [(key, .tables [finished])])
  | true, some (.tables elements) =>
      some ((), children.replace key (.tables (elements ++ [finished])))
  | false, none => some ((), children ++ [(key, finished)])
  | _, some _ => none

def close (draft : Draft) : Option Children :=
  match draft.path.getLast? with
  | none => some draft.current
  | some key => do
      let finished := Node.table false false draft.current
      let (_, root) ← Children.alter false (fun _ => place draft.isList key finished)
        draft.path.dropLast false draft.root
      return root

/-- Makes a list of tables for a header unless there is one. Nothing but a list may be there. -/
def reserve (key : Text) (children : Children) : Option (Children × Children) :=
  match children.lookup key with
  | none => some ([], children ++ [(key, .tables [])])
  | some (.tables _) => some ([], children)
  | some _ => none

/-- Takes the table of a header out of its place until it is finished, and tells its children. It
may be there as a step of longer headers and nothing else. -/
def claim (key : Text) (children : Children) : Option (Children × Children) :=
  match children.lookup key with
  | none => some ([], children)
  | some (.table true false inner) => some (inner, children.remove key)
  | some _ => none

def openHeader (draft : Draft) (isList : Bool) (path : List Text) : Option Draft := do
  let root ← draft.close
  let key ← path.getLast?
  let take (_ : Bool) := if isList then reserve key else claim key
  let (current, root) ← Children.alter false take path.dropLast false root
  return { root, isList, path, current }

def add (draft : Draft) : Statement → Option Draft
  | .header isList path => draft.openHeader isList path
  | .pair path value => do
      let current ← Children.assign path value draft.current
      return { draft with current }

def addAll : Draft → List Statement → Option Draft
  | draft, [] => some draft
  | draft, statement :: others => do
      let changed ← draft.add statement
      addAll changed others

end Draft

/-- The entries of a document, in the order in which their keys come up. The document itself is
never a marked table. -/
def parse (text : Text) : Option (List (Text × Value)) := do
  let (found, _) ← statements text
  let draft ← Draft.start.addAll found
  let root ← draft.close
  unmarkEntries (entriesOf root)

end Supervision.Toml
