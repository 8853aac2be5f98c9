import Supervision.Reader.Basic

/-!
Reading steps as data: a list of steps, nested to any depth, run one after the other on one text.
-/

namespace Supervision

inductive Step where
  | gap
  | word
  | digits
  | remainder
  | atEnd
  | delimited (opening closing : Char)
  | attempt (steps : List Step)
  | spaced (steps : List Step)

inductive Yield where
  | mark
  | text (found : Text)
  | items (found : List Yield)

namespace Step

mutual

def read : Step → Reader Yield
  | .gap => do
      Reader.gap
      return .mark
  | .word => return .text (← Reader.word)
  | .digits => return .text (← Reader.digits)
  | .remainder => return .text (← Reader.remainder)
  | .atEnd => do
      Reader.atEnd
      return .mark
  | .delimited opening closing => return .text (← Reader.delimited opening closing)
  | .attempt steps => return .items (← readAll steps)
  | .spaced steps => do
      Reader.gap
      return .items (← readAll steps)

def readAll : List Step → Reader (List Yield)
  | [] => pure []
  | step :: steps => do
      let found ← read step
      let others ← readAll steps
      return found :: others

end

/-- What each step of a sequence yields, and the text that is unread after it. -/
def trace : List Step → Text → List (Option Yield × Text)
  | [], _ => []
  | step :: steps, text =>
      match read step text with
      | some (found, rest) => (some found, rest) :: trace steps rest
      | none => (none, text) :: trace steps text

end Step

end Supervision
