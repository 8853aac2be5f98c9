import Supervision.Text.Basic

/-!
Extra settings of a process: the `key=value` tokens of an option block, in the order written.
-/

namespace Supervision

structure Extras where
  pairs : List (Text × Text)
  deriving DecidableEq

namespace Extras

open Text

def empty : Extras := ⟨[]⟩

/-- A token is a setting if its first `=` has text on both sides. -/
def setting? (token : Text) : Option (Text × Text) :=
  (splitOnce '=' token).filter fun setting => !setting.1.isEmpty && !setting.2.isEmpty

def parse (block : Text) : Extras :=
  ⟨(words block).filterMap setting?⟩

def contains (extras : Extras) (key : Text) : Bool :=
  extras.pairs.any fun pair => pair.1 == key

def get? (extras : Extras) (key : Text) : Option Text :=
  extras.pairs.lookup key

def isEmpty (extras : Extras) : Bool :=
  extras.pairs.isEmpty

end Extras

end Supervision
