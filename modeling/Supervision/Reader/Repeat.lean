import Supervision.Reader.Basic

/-!
Readers for single characters and for repetition.
-/

namespace Supervision.Reader

def charWhere (accepts : Char → Bool) : Reader Char
  | [] => none
  | c :: rest => if accepts c then some (c, rest) else none

def char (c : Char) : Reader Unit
  | [] => none
  | d :: rest => if d = c then some ((), rest) else none

def run (accepts : Char → Bool) : Reader Text := fun text =>
  some (text.takeWhile accepts, text.dropWhile accepts)

def someRun (accepts : Char → Bool) : Reader Text := fun text =>
  (run accepts text).filter fun taken => !taken.1.isEmpty

def exactly : Text → Reader Unit
  | [] => pure ()
  | c :: text => do
      char c
      exactly text

def times (accepts : Char → Bool) : Nat → Reader Text
  | 0 => pure []
  | count + 1 => do
      let c ← charWhere accepts
      let others ← times accepts count
      return c :: others

def endOfText : Reader Unit
  | [] => some ((), [])
  | _ :: _ => none

/-- Reads items for as long as they are there, at most one for each character of a text. -/
def manyWithin {α : Type} (item : Reader α) : Text → Text → List α × Text
  | [], text => ([], text)
  | _ :: bound, text =>
      match item text with
      | none => ([], text)
      | some (found, rest) =>
          let others := manyWithin item bound rest
          (found :: others.1, others.2)

def many {α : Type} (item : Reader α) : Reader (List α) := fun text =>
  some (manyWithin item text text)

def separated {α : Type} (separator : Reader Unit) (item : Reader α) : Reader (List α) := do
  let first ← item
  let others ← many (do separator; item)
  return first :: others

end Supervision.Reader
