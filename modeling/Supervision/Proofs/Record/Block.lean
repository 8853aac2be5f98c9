import Supervision.Options.Basic
import Supervision.Proofs.Record.Line
import Supervision.Proofs.Text.Words

/-!
Blocks line by line: a block succeeds exactly when each of its lines that is not blank does, and
fails with the number and the text of the first line that does not.
-/

namespace Supervision

open Text Outcome

variable {Rec : Type}

/-- The listed lines of a block are those that hold a record, trimmed. -/
theorem Options.inkLines_eq (text : Text) : inkLines text = (recordLines text).map trim := by
  rw [inkLines, recordLines, List.filter_map]
  congr 1
  apply List.filter_congr
  intro line _
  cases blank : allBlank line with
  | true => simp [trim_eq_nil_iff.mpr blank]
  | false =>
      have nonempty : trim line ≠ [] := fun empty => by simp [trim_eq_nil_iff.mp empty] at blank
      simp [nonempty]

theorem Reader.reads_trim_iff {reader : Reader Rec} {line : Text} {record : Rec} :
    reader.Reads (trim line) record ↔ reader.Reads line record := by
  rw [Reader.Reads, Reader.Reads, trim_trim]

theorem readBlock_eq_ok_iff_inkLines {reader : Reader Rec} {kind : RecordKind} {block : Text}
    {records : List Rec} :
    readBlock reader kind block = .ok records ↔
      List.Forall₂ reader.Reads (Options.inkLines block) records := by
  rw [readBlock_eq_ok_iff, Options.inkLines_eq, List.forall₂_map_left_iff]
  simp only [Reader.reads_trim_iff]

theorem Reader.rejects_iff_readLine {reader : Reader Rec} {line : Text} (kind : RecordKind)
    (number : Nat) :
    reader.Rejects line ↔
      allBlank line = false ∧ ∀ record, readLine reader kind number line ≠ .ok record := by
  simp only [Reader.Rejects, ne_eq, readLine_eq_ok_iff]

theorem Reader.not_rejects_iff_readLine {reader : Reader Rec} {line : Text} (kind : RecordKind)
    (number : Nat) :
    ¬reader.Rejects line ↔
      allBlank line = true ∨ ∃ record, readLine reader kind number line = .ok record := by
  rw [rejects_iff_readLine kind number, not_and_or, Bool.not_eq_false]
  simp only [ne_eq, not_forall, not_not]

/-- A block is all of its lines: it succeeds exactly when each line that is not blank does, and then
with the records of these lines in order, which are those of the lines listed for its option. It
fails as its first line that is neither blank nor read, with the text of that line as it is and
its position among all lines, counted from one. -/
theorem readBlock_iff_readLine (reader : Reader Rec) (kind : RecordKind) (number : Nat)
    (block : Text) :
    ((∃ records, readBlock reader kind block = .ok records) ↔
      ∀ line ∈ lines block, allBlank line = true ∨
        ∃ record, readLine reader kind number line = .ok record) ∧
    (∀ records, readBlock reader kind block = .ok records ↔
      (recordLines block).map (readLine reader kind number) = records.map .ok) ∧
    (∀ (options : Options) key records,
      readBlock reader kind (options.block key) = .ok records ↔
        (options.blockLines key).map (readLine reader kind number) = records.map .ok) ∧
    (∀ error, readBlock reader kind block = .error error ↔
      ∃ index line, (lines block)[index]? = some line ∧
        allBlank line = false ∧ (∀ record, readLine reader kind number line ≠ .ok record) ∧
        (∀ earlier < index, ∀ other, (lines block)[earlier]? = some other →
          allBlank other = true ∨ ∃ record, readLine reader kind number other = .ok record) ∧
        error = .malformedLine kind (index + 1) line) := by
  refine ⟨?_, ?_, ?_, ?_⟩
  · simp only [exists_readBlock_eq_ok_iff, Reader.not_rejects_iff_readLine kind number]
  · intro records
    simp only [readBlock_eq_ok_iff, ← forall₂_eq_ok_iff, readLine_eq_ok_iff]
  · intro options key records
    simp only [readBlock_eq_ok_iff_inkLines, ← forall₂_eq_ok_iff, readLine_eq_ok_iff,
      Options.blockLines]
  · intro error
    rw [readBlock_eq_error_iff, stopsAt_iff_getElem?]
    -- The negations first: a bad line is spelt out on both sides otherwise.
    simp only [Reader.not_rejects_iff_readLine kind number]
    simp only [Reader.rejects_iff_readLine kind number, Nat.add_comm 1]
    constructor
    · rintro ⟨index, line, found, passed, ⟨ink, refused⟩, equal⟩
      exact ⟨index, line, found, ink, refused, passed, equal⟩
    · rintro ⟨index, line, found, ink, refused, passed, equal⟩
      exact ⟨index, line, found, passed, ⟨ink, refused⟩, equal⟩

end Supervision
