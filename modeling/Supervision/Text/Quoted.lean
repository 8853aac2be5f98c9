import Supervision.Text.Printable

/-!
Texts in messages, between double quotes. Quotes, backslashes and the characters that do not print
as themselves are escaped, so that a message stays on one line and can be read back.
-/

namespace Supervision.Text

def hexDigits (number : Nat) : Text :=
  Nat.toDigits 16 number

def escapeChar (c : Char) : Text :=
  if c = '"' then ['\\', '"']
  else if c = '\\' then ['\\', '\\']
  else if c = '\t' then ['\\', 't']
  else if c = '\r' then ['\\', 'r']
  else if c = '\n' then ['\\', 'n']
  else if c = '\x00' then ['\\', '0']
  else if isPrintable c then [c]
  else ['\\', 'u', '\x7b'] ++ hexDigits c.toNat ++ ['\x7d']

def quoted (text : Text) : Text :=
  '"' :: text.flatMap escapeChar ++ ['"']

def quotedList (texts : List Text) : Text :=
  '[' :: joinWith ", " (texts.map quoted) ++ [']']

end Supervision.Text
