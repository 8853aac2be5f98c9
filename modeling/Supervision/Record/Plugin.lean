import Supervision.Record.Line

/-!
Plugin lines: a name and what to call, for the control client and for the RPC interface alike.
-/

namespace Supervision

structure Plugin where
  name : Text
  callable : Text
  deriving DecidableEq

open Reader in
def Plugin.reader : Reader Plugin := do
  let name ← word
  gap
  let callable ← word
  return { name, callable }

end Supervision
