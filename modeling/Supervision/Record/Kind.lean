import Supervision.Text.Quoted

/-!
The kinds of lines a configuration is made of, and what can be wrong with one.
-/

namespace Supervision

inductive RecordKind where
  | program
  | eventListener
  | group
  | controlPlugin
  | rpcPlugin
  deriving DecidableEq

def RecordKind.label : RecordKind → Text
  | .program => "program"
  | .eventListener => "event listener"
  | .group => "group"
  | .controlPlugin => "ctl plugin"
  | .rpcPlugin => "rpc plugin"

inductive ConfigError where
  /-- The line with this number, counted from one in its block, does not fit its grammar. -/
  | malformedLine (kind : RecordKind) (number : Nat) (line : Text)
  | unknownTransport (value : Text)
  deriving DecidableEq

open Text in
def ConfigError.message : ConfigError → Text
  | .malformedLine kind number line =>
      kind.label ++ " line ".toList ++ ofNat number ++ " is malformed: ".toList ++ quoted line
  | .unknownTransport value =>
      "http-socket only supports values inet or unix, got ".toList ++ quoted value

end Supervision
