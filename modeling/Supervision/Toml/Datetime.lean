import Supervision.Toml.String
import Supervision.Toml.Value

/-!
Dates and times of TOML. They are written as they are, or as a text in a table that a reserved key
marks.
-/

namespace Supervision.Toml

open Reader

def twoDigits (least greatest : Nat) : Reader Nat := do
  let number := numberOf 10 (← times Char.isDigit 2)
  if least ≤ number ∧ number ≤ greatest then return number else failure

def daysIn (year month : Nat) : Nat :=
  if month = 2 then
    if year % 4 = 0 ∧ (year % 100 ≠ 0 ∨ year % 400 = 0) then 29 else 28
  else if month = 4 ∨ month = 6 ∨ month = 9 ∨ month = 11 then 30
  else 31

def date : Reader Unit := do
  let year := numberOf 10 (← times Char.isDigit 4)
  char '-'
  let month ← twoDigits 1 12
  char '-'
  let _ ← twoDigits 1 (daysIn year month)

def time : Reader Unit := do
  let _ ← twoDigits 0 23
  char ':'
  let _ ← twoDigits 0 59
  char ':'
  let _ ← twoDigits 0 60
  let _ ← maybe (do char '.'; someRun Char.isDigit)

def offset : Reader Unit :=
  (do let _ ← charWhere fun c => c == 'Z' || c == 'z') <|>
  (do
    let _ ← charWhere fun c => c == '+' || c == '-'
    let _ ← twoDigits 0 23
    char ':'
    let _ ← twoDigits 0 59)

def datetime : Reader Unit :=
  (do
    date
    let _ ← maybe do
      let _ ← charWhere fun c => c == 'T' || c == 't' || c == ' '
      time
      maybe offset) <|> time

def isDatetime (text : Text) : Bool :=
  (do datetime; endOfText : Reader Unit) text |>.isSome

def datetimeKey : Text := "$__toml_private_datetime"

mutual

/-- The value with marked tables replaced by the datetimes they stand for. A table is marked if the
key comes first in it, and then has to hold the text of a datetime there. -/
def Value.unmark? : Value → Option Value
  | .array items => do return .array (← unmarkItems items)
  | .table [] => some (.table [])
  | .table ((key, value) :: entries) =>
      if key = datetimeKey then
        match value with
        | .string text => if isDatetime text then some .datetime else none
        | _ => none
      else do return .table (← unmarkEntries ((key, value) :: entries))
  | value => some value

def unmarkItems : List Value → Option (List Value)
  | [] => some []
  | item :: items => do return (← item.unmark?) :: (← unmarkItems items)

def unmarkEntries : List (Text × Value) → Option (List (Text × Value))
  | [] => some []
  | (key, value) :: entries => do return (key, ← value.unmark?) :: (← unmarkEntries entries)

end

end Supervision.Toml
