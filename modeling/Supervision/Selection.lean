import Supervision.Notice
import Supervision.Options.Basic

/-!
Which families of sections are wanted: the words of the `sections` option, in any order.
-/

namespace Supervision

structure Selection where
  control : Bool
  http : Bool
  rpc : Bool
  deriving DecidableEq

namespace Selection

open Text

def parse (raw : Text) : Selection where
  control := (words raw).contains "ctl".toList
  http := (words raw).contains "http".toList
  rpc := (words raw).contains "rpc".toList

def selectors : List Text :=
  ["ctl", "http", "rpc"]

/-- The words that select nothing. -/
def unknownSelectors (raw : Text) : List Text :=
  (words raw).filter fun word => !selectors.contains word

def selector (options : Options) : Text :=
  options.getD "sections" "ctl http rpc"

def resolve (options : Options) : Selection :=
  parse (selector options)

def notices (raw : Text) : List Notice :=
  (unknownSelectors raw).map .unknownSelector

end Selection

end Supervision
