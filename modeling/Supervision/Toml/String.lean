import Supervision.Toml.Space

/-!
Strings and keys of TOML: basic and literal, on one line and on several.
-/

namespace Supervision.Toml

open Reader

def hexValue (c : Char) : Nat :=
  if c.isDigit then c.toNat - '0'.toNat
  else if decide ('a' ≤ c) && decide (c ≤ 'f') then c.toNat - 'a'.toNat + 10
  else c.toNat - 'A'.toNat + 10

def isHexDigit (c : Char) : Bool :=
  c.isDigit || decide ('a' ≤ c) && decide (c ≤ 'f') || decide ('A' ≤ c) && decide (c ≤ 'F')

def numberOf (base : Nat) (digits : Text) : Nat :=
  digits.foldl (fun number digit => base * number + hexValue digit) 0

def codePoint (digits : Nat) : Reader Char := fun text =>
  match times isHexDigit digits text with
  | some (found, rest) =>
      let code := numberOf 16 found
      if code.isValidChar then some (Char.ofNat code, rest) else none
  | none => none

def escapedChar : Reader Char := do
  char '\\'
  let c ← charWhere fun _ => true
  if c = 'b' then return '\x08'
  else if c = 'f' then return '\x0c'
  else if c = 'n' then return '\n'
  else if c = 'r' then return '\r'
  else if c = 't' then return '\t'
  else if c = '"' then return '"'
  else if c = '\\' then return '\\'
  else if c = 'u' then codePoint 4
  else if c = 'U' then codePoint 8
  else failure

def isBasicChar (c : Char) : Bool :=
  isCommentChar c && c != '"' && c != '\\'

def isLiteralChar (c : Char) : Bool :=
  isCommentChar c && c != '\''

def basicString : Reader Text := do
  char '"'
  let found ← many (charWhere isBasicChar <|> escapedChar)
  char '"'
  return found

def literalString : Reader Text := do
  char '\''
  let found ← run isLiteralChar
  char '\''
  return found

/-- One or two quotes inside a string of several lines, which a further quote may not follow. -/
def innerQuotes (quote : Char) : Reader Text := fun text =>
  let found := text.takeWhile (· = quote)
  let rest := text.dropWhile (· = quote)
  if 0 < found.length ∧ found.length ≤ 2 ∧ !rest.isEmpty then some (found, rest) else none

def closingQuotes (quote : Char) : Reader Text := fun text =>
  let found := text.takeWhile (· = quote)
  if 3 ≤ found.length then
    let inner := min (found.length - 3) 2
    some (List.replicate inner quote, text.drop (inner + 3))
  else none

/-- A backslash at the end of a line, which takes away the blanks and line ends after it. -/
def continuation : Reader Unit := do
  char '\\'
  spaces
  newline
  let _ ← many ((do let _ ← someRun isSpace) <|> newline)

def multilineString (quote : Char) (piece : Reader Text) : Reader Text := do
  exactly [quote, quote, quote]
  let _ ← maybe newline
  let pieces ← many (piece <|> innerQuotes quote)
  let last ← closingQuotes quote
  return pieces.flatten ++ last

def lineBreak : Reader Text := do
  newline
  return ['\n']

def multilineBasic : Reader Text :=
  multilineString '"' <|
    someRun isBasicChar <|> lineBreak <|> (do continuation; return []) <|>
      (do let c ← escapedChar; return [c])

def multilineLiteral : Reader Text :=
  multilineString '\'' (someRun isLiteralChar <|> lineBreak)

def string : Reader Text :=
  multilineBasic <|> basicString <|> multilineLiteral <|> literalString

def isBareKeyChar (c : Char) : Bool :=
  c.isAlphanum || c == '-' || c == '_'

def simpleKey : Reader Text := do
  spaces
  let key ← basicString <|> literalString <|> someRun isBareKeyChar
  spaces
  return key

def keyLimit : Nat := 80

def key : Reader (List Text) := fun text =>
  (separated (char '.') simpleKey text).filter fun taken => decide (taken.1.length < keyLimit)

end Supervision.Toml
