import Supervision.Toml.Value

/-!
Tables while they are put together. A table knows whether it was written out or came about as a
step of a longer path, and whether that path was a dotted key: what may be added depends on it.
-/

namespace Supervision.Toml

inductive Node where
  | value (value : Value)
  /-- Implicit tables are steps of a path; dotted ones are steps of a dotted key. -/
  | table (isImplicit isDotted : Bool) (children : List (Text × Node))
  | tables (elements : List Node)

mutual

def Node.toValue : Node → Value
  | .value value => value
  | .table _ _ children => .table (entriesOf children)
  | .tables elements => .array (valuesOf elements)

def entriesOf : List (Text × Node) → List (Text × Value)
  | [] => []
  | (key, child) :: children => (key, child.toValue) :: entriesOf children

def valuesOf : List Node → List Value
  | [] => []
  | element :: elements => element.toValue :: valuesOf elements

end

abbrev Children := List (Text × Node)

namespace Children

def replace (key : Text) (child : Node) : Children → Children
  | [] => [(key, child)]
  | entry :: entries =>
      if entry.1 = key then (key, child) :: entries else entry :: replace key child entries

def remove (key : Text) (children : Children) : Children :=
  children.filter fun entry => entry.1 != key

/-- Changes the table at the end of a path, and tells what the change tells. Missing tables on the
way are made, and of tables under one header the last is taken. A dotted path does not lead through
tables that were written out. -/
def alter {Found : Type} (isDotted : Bool)
    (change : Bool → Children → Option (Found × Children)) :
    List Text → Bool → Children → Option (Found × Children)
  | [], atDotted, children => change atDotted children
  | key :: path, _, children =>
      match children.lookup key with
      | none => do
          let (found, inner) ← alter isDotted change path isDotted []
          return (found, children ++ [(key, .table true isDotted inner)])
      | some (.value _) => none
      | some (.tables elements) =>
          match elements.getLast? with
          | some (.table wasImplicit wasDotted inner) => do
              let (found, inner) ← alter isDotted change path wasDotted inner
              let changed := elements.dropLast ++ [.table wasImplicit wasDotted inner]
              return (found, children.replace key (.tables changed))
          | _ => none
      | some (.table wasImplicit wasDotted inner) =>
          if isDotted && !wasImplicit then none
          else do
            let (found, inner) ← alter isDotted change path wasDotted inner
            return (found, children.replace key (.table wasImplicit wasDotted inner))

/-- Adds a value under the last step of a dotted key. The table that takes it must itself be dotted
exactly if the key has other steps, and may not have the key yet. -/
def assign (path : List Text) (value : Value) (children : Children) : Option Children := do
  let key ← path.getLast?
  let steps := path.dropLast
  let add (atDotted : Bool) (inner : Children) : Option (Unit × Children) :=
    if atDotted == steps.isEmpty || (inner.lookup key).isSome then none
    else some ((), inner ++ [(key, .value value)])
  let (_, changed) ← alter true add steps false children
  return changed

def assignAll : List (List Text × Value) → Children → Option Children
  | [], children => some children
  | (path, value) :: others, children => do
      let changed ← assign path value children
      assignAll others changed

end Children

end Supervision.Toml
