import Supervision.Text.Basic

/-!
Readers take fields from the front of a text. A reader that yields nothing has no unread text to
show, so its caller goes on from where it stood: rewinding is built in.
-/

namespace Supervision

/-- Reads from the front of the unread text, or yields nothing. -/
abbrev Reader := StateT Text Option

namespace Reader

open Text

def gap : Reader Unit
  | [] => none
  | c :: rest => if isBlank c then some ((), rest.dropWhile isBlank) else none

def word : Reader Text := fun text =>
  match text.takeWhile isInk with
  | [] => none
  | found => some (found, text.dropWhile isInk)

def wordWhere (accepts : Text → Bool) : Reader Text := fun text =>
  (word text).filter fun taken => accepts taken.1

def digits : Reader Text :=
  wordWhere fun found => found.all Char.isDigit

/-- The text between `opening` and the first `closing`, which may not be empty. -/
def delimited (opening closing : Char) : Reader Text
  | [] => none
  | c :: rest =>
      if c = opening then (splitOnce closing rest).filter fun taken => !taken.1.isEmpty
      else none

def remainder : Reader Text := fun text =>
  match trimEnd text with
  | [] => none
  | found => some (found, [])

def atEnd : Reader Unit := fun text =>
  if allBlank text then some ((), text) else none

def spaced {α : Type} (field : Reader α) : Reader α := do
  gap
  field

def maybe {α : Type} (field : Reader α) : Reader (Option α) := fun text =>
  match field text with
  | some (found, rest) => some (some found, rest)
  | none => some (none, text)

end Reader

end Supervision
