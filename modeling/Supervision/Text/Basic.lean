/-!
Texts as lists of characters: blanks, trimming, and the ways a text falls apart, into pieces
between cut characters, into words and into lines.
-/

namespace Supervision

/-- A text is kept as its characters, so that a grammar can be stated by appending pieces. -/
abbrev Text := List Char

instance : Coe String Text := ⟨String.toList⟩

namespace Text

def inRanges (ranges : List (Nat × Nat)) (c : Char) : Bool :=
  ranges.any fun range => decide (range.1 ≤ c.toNat) && decide (c.toNat ≤ range.2)

/-- The characters with the property White_Space. -/
def blankRanges : List (Nat × Nat) :=
  [(0x9, 0xD), (0x20, 0x20), (0x85, 0x85), (0xA0, 0xA0), (0x1680, 0x1680), (0x2000, 0x200A),
    (0x2028, 0x2029), (0x202F, 0x202F), (0x205F, 0x205F), (0x3000, 0x3000)]

def isBlank (c : Char) : Bool :=
  inRanges blankRanges c

def isInk (c : Char) : Bool :=
  !isBlank c

def allBlank (text : Text) : Bool :=
  text.all isBlank

def trimStart (text : Text) : Text :=
  text.dropWhile isBlank

def trimEnd (text : Text) : Text :=
  (text.reverse.dropWhile isBlank).reverse

def trim (text : Text) : Text :=
  trimEnd (trimStart text)

def extendFirst {α : Type} (c : α) : List (List α) → List (List α)
  | [] => [[c]]
  | piece :: pieces => (c :: piece) :: pieces

/-- The pieces between the characters that `cut` accepts, empty ones included: one more than
there are cuts. -/
def splitWhere {α : Type} (cut : α → Bool) : List α → List (List α)
  | [] => [[]]
  | c :: rest => if cut c then [] :: splitWhere cut rest else extendFirst c (splitWhere cut rest)

def runs (cut : Char → Bool) (text : Text) : List Text :=
  (splitWhere cut text).filter fun piece => !piece.isEmpty

def words (text : Text) : List Text :=
  runs isBlank text

def splitOnce (mark : Char) : Text → Option (Text × Text)
  | [] => none
  | c :: rest =>
      if c = mark then some ([], rest)
      else (splitOnce mark rest).map fun halves => (c :: halves.1, halves.2)

def dropReturn : Text → Text
  | [] => []
  | ['\r'] => []
  | c :: rest => c :: dropReturn rest

/-- A line feed ends a line, together with a carriage return right before it. What follows the
last line feed is a line too unless it is empty, and keeps its carriage return. -/
def endLines : List Text → List Text
  | [] => []
  | [last] => if last.isEmpty then [] else [last]
  | piece :: pieces => dropReturn piece :: endLines pieces

def lines (text : Text) : List Text :=
  endLines (splitWhere (· = '\n') text)

def joinWith (separator : Text) (pieces : List Text) : Text :=
  separator.intercalate pieces

def ofNat (number : Nat) : Text :=
  Nat.toDigits 10 number

def ofInt : Int → Text
  | .ofNat number => ofNat number
  | .negSucc number => '-' :: ofNat (number + 1)

def ofBool (flag : Bool) : Text :=
  if flag then "true" else "false"

def asString (text : Text) : String :=
  String.ofList text

end Text

end Supervision
