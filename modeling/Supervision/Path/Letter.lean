import Supervision.Text.Basic

/-!
Paths as the system has them. They are bytes, which need not be UTF-8: read as that, they are
characters and, in between, bytes that are none.
-/

namespace Supervision

inductive Letter where
  | char (c : Char)
  /-- Bytes that are no character, as many as a single replacement character stands for. -/
  | broken (bytes : List UInt8)
  deriving DecidableEq

namespace Letter

def size : Letter → Nat
  | char c => c.utf8Size
  | broken bytes => bytes.length

def shown : Letter → Char
  | char c => c
  | broken _ => '\ufffd'

def written? : Letter → Option Char
  | char c => some c
  | broken _ => none

end Letter

abbrev PathText := List Letter

namespace PathText

def ofText (text : Text) : PathText :=
  text.map .char

instance : Coe Text PathText := ⟨ofText⟩

/-- What is printed for a path, and put in its place in a text. -/
def shown (path : PathText) : Text :=
  path.map Letter.shown

def written? (path : PathText) : Option Text :=
  path.mapM Letter.written?

def byteLength (path : PathText) : Nat :=
  path.foldl (fun length letter => length + letter.size) 0

end PathText

end Supervision
