import Supervision.Decimal.Binary64

/-!
TOML values. A date or time is known to be one and nothing more is kept of it.
-/

namespace Supervision.Toml

inductive Value where
  | string (text : Text)
  | integer (number : Int)
  | float (number : Binary64)
  | boolean (flag : Bool)
  | datetime
  | array (items : List Value)
  | table (entries : List (Text × Value))

inductive Kind where
  | string
  | integer
  | float
  | boolean
  | datetime
  | array
  | table
  deriving DecidableEq

def Kind.label : Kind → Text
  | .string => "string"
  | .integer => "integer"
  | .float => "float"
  | .boolean => "boolean"
  | .datetime => "datetime"
  | .array => "array"
  | .table => "table"

def Value.kind : Value → Kind
  | .string _ => .string
  | .integer _ => .integer
  | .float _ => .float
  | .boolean _ => .boolean
  | .datetime => .datetime
  | .array _ => .array
  | .table _ => .table

end Supervision.Toml
