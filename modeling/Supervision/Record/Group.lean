import Supervision.Record.Line

/-!
Group lines: `priority name members`, the members between commas, blanks or both.
-/

namespace Supervision

structure Group where
  priority : Text
  name : Text
  members : List Text
  deriving DecidableEq

namespace Group

open Text Reader

def separates (c : Char) : Bool :=
  c == ',' || isBlank c

def membersReader : Reader (List Text) := fun text =>
  match remainder text with
  | some (found, rest) =>
      match runs separates found with
      | [] => none
      | members => some (members, rest)
  | none => none

def reader : Reader Group := do
  let priority ← digits
  gap
  let name ← word
  gap
  let members ← membersReader
  return { priority, name, members }

end Group

end Supervision
