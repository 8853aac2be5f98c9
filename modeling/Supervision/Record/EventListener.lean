import Supervision.Record.Program

/-!
Event listener lines: `name (settings) events command [arguments]`, of which the settings and the
arguments may be left out.
-/

namespace Supervision

structure EventListener where
  name : Text
  events : Text
  command : Text
  arguments : Option Text
  extras : Extras
  deriving DecidableEq

open Reader in
def EventListener.reader : Reader EventListener := do
  let name ← word
  let extras ← settings
  gap
  let events ← word
  gap
  let command ← word
  let arguments ← Reader.arguments
  return { name, events, command, arguments, extras }

end Supervision
