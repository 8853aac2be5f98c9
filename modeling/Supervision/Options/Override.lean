import Supervision.Options.Basic
import Supervision.Text.Quoted
import Supervision.Toml.Document

/-!
Where options come from: `KEY=VALUE` overrides and the top-level keys of a TOML document.
-/

namespace Supervision

inductive OptionError where
  | overrideWithoutValue (raw : Text)
  | overrideWithoutKey (raw : Text)
  | mixedList (key : Text) (found : Toml.Kind)
  | unsupported (key : Text) (found : Toml.Kind)
  | notToml
  deriving DecidableEq

open Text in
def OptionError.message : OptionError → Text
  | .overrideWithoutValue raw => "override must look like KEY=VALUE: ".toList ++ quoted raw
  | .overrideWithoutKey raw => "override has an empty key: ".toList ++ quoted raw
  | .mixedList key found =>
      "option ".toList ++ key ++ " must be a list of strings, found ".toList ++ found.label
  | .unsupported key found =>
      "option ".toList ++ key ++
        " must be a string, number, boolean or list of strings, found ".toList ++ found.label
  | .notToml => "the text is not a TOML document"

namespace Options

open Text

/-- The key of an override stands before the first `=` and is trimmed; the value is not. -/
def override (options : Options) (raw : Text) : Except OptionError Options :=
  match splitOnce '=' raw with
  | none => .error (.overrideWithoutValue raw)
  | some (key, value) =>
      if (trim key).isEmpty then .error (.overrideWithoutKey raw)
      else .ok (options.insert (trim key) value)

def overrideAll : Options → List Text → Except OptionError Options
  | options, [] => .ok options
  | options, raw :: others => do
      let changed ← options.override raw
      overrideAll changed others

def listItems (key : Text) : List Toml.Value → Except OptionError (List Text)
  | [] => .ok []
  | .string text :: items => do
      let texts ← listItems key items
      return text :: texts
  | item :: _ => .error (.mixedList key item.kind)

/-- The text an option takes from a value. A list of strings becomes lines. -/
def valueText (key : Text) : Toml.Value → Except OptionError Text
  | .string text => .ok text
  | .integer number => .ok (ofInt number)
  | .float number => .ok number.text
  | .boolean flag => .ok (ofBool flag)
  | .array items => do
      let texts ← listItems key items
      return joinWith ['\n'] texts
  | value => .error (.unsupported key value.kind)

def insertValues : Options → List (Text × Toml.Value) → Except OptionError Options
  | options, [] => .ok options
  | options, (key, value) :: entries => do
      let text ← valueText key value
      insertValues (options.insert key text) entries

def ofTable (table : List (Text × Toml.Value)) : Except OptionError Options :=
  insertValues empty (table.mergeSort fun left right => notAfter left.1 right.1)

def ofToml (text : Text) : Except OptionError Options :=
  match Toml.parse text with
  | some table => ofTable table
  | none => .error .notToml

end Options

end Supervision
