import Supervision.Reader.Repeat

/-!
White space, comments and line ends of TOML.
-/

namespace Supervision.Toml

open Reader

def isSpace (c : Char) : Bool :=
  c == ' ' || c == '\t'

def isNonAscii (c : Char) : Bool :=
  decide (0x80 ≤ c.toNat)

def isCommentChar (c : Char) : Bool :=
  c == '\t' || decide (0x20 ≤ c.toNat) && decide (c.toNat ≤ 0x7E) || isNonAscii c

def spaces : Reader Unit := do
  let _ ← run isSpace

def newline : Reader Unit :=
  char '\n' <|> exactly ['\r', '\n']

def comment : Reader Unit := do
  char '#'
  let _ ← run isCommentChar

def lineEnd : Reader Unit :=
  newline <|> endOfText

def lineRest : Reader Unit := do
  spaces
  let _ ← maybe comment
  lineEnd

def filler : Reader Unit := do
  let piece : Reader Unit :=
    (do let _ ← someRun isSpace) <|> newline <|> (do comment; newline)
  let _ ← many piece

end Supervision.Toml
