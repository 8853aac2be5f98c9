import Supervision.Reader.Basic
import Supervision.Record.Kind

/-!
Records are written one to a line, in blocks of lines. Blank lines count in the numbering of a
block and hold no record.
-/

namespace Supervision

open Text

/-- Reads a whole line: blanks at both ends do not matter, and nothing may be left over. -/
def readLine {Rec : Type} (reader : Reader Rec) (kind : RecordKind) (number : Nat) (line : Text) :
    Except ConfigError Rec :=
  match reader (trim line) with
  | some (record, rest) =>
      if allBlank rest then .ok record else .error (.malformedLine kind number line)
  | none => .error (.malformedLine kind number line)

/-- Reads the lines that are not blank, numbered from `number` on, up to the first bad one. -/
def readLines {Rec : Type} (reader : Reader Rec) (kind : RecordKind) :
    Nat → List Text → Except ConfigError (List Rec)
  | _, [] => .ok []
  | number, line :: others =>
      if allBlank line then readLines reader kind (number + 1) others
      else do
        let record ← readLine reader kind number line
        let records ← readLines reader kind (number + 1) others
        return record :: records

def readBlock {Rec : Type} (reader : Reader Rec) (kind : RecordKind) (block : Text) :
    Except ConfigError (List Rec) :=
  readLines reader kind 1 (lines block)

end Supervision
