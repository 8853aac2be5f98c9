import Supervision.Toml.Datetime

/-!
Numbers of TOML, among which its dates and times are read.
-/

namespace Supervision.Toml

open Reader

def digitRun (isDigit : Char → Bool) : Reader Text := do
  let first ← charWhere isDigit
  let others ← many (charWhere isDigit <|> (do char '_'; charWhere isDigit))
  return first :: others

def sign : Reader Bool :=
  (do char '+'; return false) <|> (do char '-'; return true)

def optionalSign : Reader Bool := do
  let found ← maybe sign
  return found == some true

def wholeDigits : Reader Text :=
  (do char '0'; return ['0']) <|> digitRun Char.isDigit

def signed (negative : Bool) (magnitude : Nat) : Int :=
  if negative then -(magnitude : Int) else magnitude

def isWord64 (number : Int) : Bool :=
  decide (-0x8000000000000000 ≤ number) && decide (number < 0x8000000000000000)

def integerInRange (number : Int) : Reader Value :=
  if isWord64 number then return .integer number else failure

def decimalInteger : Reader Value := do
  let negative ← optionalSign
  let digits ← wholeDigits
  integerInRange (signed negative (numberOf 10 digits))

def basedInteger (letter : Char) (base : Nat) (isDigit : Char → Bool) : Reader Value := do
  exactly ['0', letter]
  let digits ← digitRun isDigit
  integerInRange (numberOf base digits)

def isOctalDigit (c : Char) : Bool :=
  decide ('0' ≤ c) && decide (c ≤ '7')

def isBinaryDigit (c : Char) : Bool :=
  c == '0' || c == '1'

def integer : Reader Value :=
  basedInteger 'x' 16 isHexDigit <|> basedInteger 'o' 8 isOctalDigit <|>
    basedInteger 'b' 2 isBinaryDigit <|> decimalInteger

def exponent : Reader Int := do
  let _ ← charWhere fun c => c == 'e' || c == 'E'
  let negative ← optionalSign
  let digits ← digitRun Char.isDigit
  return signed negative (numberOf 10 digits)

/-- The digits after the point and the exponent, at least one of the two. -/
def fraction : Reader (Text × Int) :=
  (do
    char '.'
    let digits ← digitRun Char.isDigit
    let power ← maybe exponent
    return (digits, power.getD 0)) <|>
  (do return ([], ← exponent))

/-- A float may not be too great; one that is too small a negative number is minus infinity. -/
def decimalFloat : Reader Value := do
  let negative ← optionalSign
  let whole ← wholeDigits
  let (digits, power) ← fraction
  let number := Binary64.ofDecimal negative (numberOf 10 (whole ++ digits)) (power - digits.length)
  if number = .infinite false then failure else return .float number

def specialFloat : Reader Value := do
  let negative ← optionalSign
  (do exactly "inf"; return .float (.infinite negative)) <|>
    (do exactly "nan"; return .float .nan)

def number : Reader Value :=
  (do datetime; return .datetime) <|> decimalFloat <|> specialFloat <|> integer

end Supervision.Toml
