import Supervision.Toml.Number
import Supervision.Toml.Table

/-!
Statements of TOML: headers of tables, and pairs of a key and a value. Values may hold values.
-/

namespace Supervision.Toml

open Reader

def boolean : Reader Value :=
  (do exactly "true"; return .boolean true) <|> (do exactly "false"; return .boolean false)

def scalar : Reader Value :=
  (do return .string (← string)) <|> number <|> boolean

def array (item : Reader Value) : Reader Value := do
  char '['
  let items ← maybe <| separated (char ',') do
    filler
    let found ← item
    filler
    return found
  let _ ← if items.isSome then maybe (char ',') else pure none
  filler
  char ']'
  return .array (items.getD [])

def inlineTable (item : Reader Value) : Reader Value := do
  char '\x7b'
  let pairs ← maybe <| separated (char ',') do
    let path ← key
    char '='
    spaces
    let found ← item
    spaces
    return (path, found)
  spaces
  char '\x7d'
  match Children.assignAll (pairs.getD []) [] with
  | some children => return .table (entriesOf children)
  | none => failure

def value : Nat → Reader Value
  | 0 => scalar
  | depth + 1 => scalar <|> array (value depth) <|> inlineTable (value depth)

def depthLimit : Nat := 79

inductive Statement where
  | header (isList : Bool) (path : List Text)
  | pair (path : List Text) (value : Value)

def header : Reader Statement :=
  (do
    exactly ['[', '[']
    let path ← key
    exactly [']', ']']
    lineRest
    return .header true path) <|>
  (do
    char '['
    let path ← key
    char ']'
    lineRest
    return .header false path)

def pair : Reader Statement := do
  let path ← key
  char '='
  spaces
  let found ← value depthLimit
  lineRest
  return .pair path found

def line : Reader (Option Statement) := do
  let found ←
    (do comment; lineEnd; return none) <|> (do newline; return none) <|>
      (do return some (← header)) <|> (do return some (← pair))
  spaces
  return found

def byteOrderMark : Char := '\ufeff'

def statements : Reader (List Statement) := do
  let _ ← maybe (char byteOrderMark)
  spaces
  let found ← many line
  endOfText
  return found.filterMap id

end Supervision.Toml
