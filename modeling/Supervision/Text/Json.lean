import Supervision.Text.Basic

/-!
JSON strings and lists of them.
-/

namespace Supervision.Text

def fourHexDigits (number : Nat) : Text :=
  let found := Nat.toDigits 16 number
  List.replicate (4 - found.length) '0' ++ found

def jsonChar (c : Char) : Text :=
  if c = '"' then ['\\', '"']
  else if c = '\\' then ['\\', '\\']
  else if c = '\x08' then ['\\', 'b']
  else if c = '\x0c' then ['\\', 'f']
  else if c = '\n' then ['\\', 'n']
  else if c = '\r' then ['\\', 'r']
  else if c = '\t' then ['\\', 't']
  else if c.toNat < 0x20 then ['\\', 'u'] ++ fourHexDigits c.toNat
  else [c]

def jsonString (text : Text) : Text :=
  '"' :: text.flatMap jsonChar ++ ['"']

def jsonList (margin : Text) (items : List Text) : Text :=
  if items.isEmpty then ['[', ']']
  else
    "[\n".toList ++ joinWith ",\n" (items.map fun item => margin ++ "  ".toList ++ item) ++
      '\n' :: margin ++ [']']

end Supervision.Text
