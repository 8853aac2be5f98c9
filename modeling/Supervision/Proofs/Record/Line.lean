import Supervision.Proofs.Outcome
import Supervision.Proofs.Reader.Sequence
import Supervision.Record.Line

/-!
Lines and blocks: a block is read line by line, and the first line that its grammar does not
accept decides how it fails.
-/

namespace Supervision

open Text Outcome

variable {Rec : Type}

/-- The record that a grammar makes of a line, blanks at both ends aside. -/
def Reader.Reads (reader : Reader Rec) (line : Text) (record : Rec) : Prop :=
  ∃ rest, reader (trim line) = some (record, rest) ∧ allBlank rest = true

def Reader.Rejects (reader : Reader Rec) (line : Text) : Prop :=
  allBlank line = false ∧ ∀ record, ¬reader.Reads line record

/-- The lines of a block that hold a record. -/
def recordLines (block : Text) : List Text :=
  (lines block).filter fun line => !allBlank line

theorem Reader.Reads.unique {reader : Reader Rec} {line : Text} {record other : Rec}
    (first : reader.Reads line record) (second : reader.Reads line other) : record = other := by
  obtain ⟨rest, taken, -⟩ := first
  obtain ⟨otherRest, otherTaken, -⟩ := second
  rw [taken, Option.some.injEq, Prod.mk.injEq] at otherTaken
  exact otherTaken.1

theorem readLine_eq_ok_iff {reader : Reader Rec} {kind : RecordKind} {number : Nat} {line : Text}
    {record : Rec} : readLine reader kind number line = .ok record ↔ reader.Reads line record := by
  unfold readLine Reader.Reads
  cases reader (trim line) with
  | none => simp
  | some taken =>
      obtain ⟨found, rest⟩ := taken
      by_cases blank : allBlank rest = true
      · simp [blank]
      · simp only [blank, Bool.false_eq_true, ↓reduceIte, reduceCtorEq, Option.some.injEq,
          Prod.mk.injEq, false_iff, not_exists, not_and]
        rintro other ⟨-, rfl⟩
        exact blank

theorem readLine_eq_error_iff {reader : Reader Rec} {kind : RecordKind} {number : Nat} {line : Text}
    {error : ConfigError} :
    readLine reader kind number line = .error error ↔
      (∀ record, ¬reader.Reads line record) ∧ error = .malformedLine kind number line := by
  cases read : readLine reader kind number line with
  | ok record =>
      have accepted : ¬∀ record, ¬reader.Reads line record :=
        fun refused => refused record (readLine_eq_ok_iff.mp read)
      simp [accepted]
  | error other =>
      have refused : ∀ record, ¬reader.Reads line record := by
        intro record reads
        rw [readLine_eq_ok_iff.mpr reads] at read
        simp at read
      have same : other = .malformedLine kind number line := by
        unfold readLine at read
        split at read
        · split at read <;> simp_all
        · simp_all
      simp [refused, same, eq_comm]

theorem Reader.Conserves.reads_iff {reader : Reader Rec} (conserves : reader.Conserves)
    {line : Text} {record : Rec} :
    reader.Reads line record ↔ reader (trim line) = some (record, []) := by
  constructor
  · rintro ⟨rest, taken, blank⟩
    obtain ⟨front, equal⟩ := conserves _ _ _ taken
    obtain rfl := eq_nil_of_trim_eq_append equal.symm blank
    exact taken
  · intro taken
    exact ⟨[], taken, rfl⟩

theorem readLines_eq_ok_iff {reader : Reader Rec} {kind : RecordKind} {number : Nat}
    {block : List Text} {records : List Rec} :
    readLines reader kind number block = .ok records ↔
      List.Forall₂ reader.Reads (block.filter fun line => !allBlank line) records := by
  induction block generalizing number records with
  | nil => simp [readLines, eq_comm]
  | cons line block ih =>
      rw [readLines]
      by_cases blank : allBlank line = true
      · simp [blank, ih]
      · simp only [blank, Bool.false_eq_true, ↓reduceIte, Bool.not_false, List.filter_cons_of_pos,
          bind_eq_ok_iff, pure_eq_ok_iff, readLine_eq_ok_iff, ih, List.forall₂_cons_left_iff]
        constructor
        · rintro ⟨record, reads, others, all, rfl⟩
          exact ⟨record, others, reads, all, rfl⟩
        · rintro ⟨record, others, reads, all, rfl⟩
          exact ⟨record, reads, others, all, rfl⟩

theorem readLines_eq_error_iff {reader : Reader Rec} {kind : RecordKind} {number : Nat}
    {block : List Text} {error : ConfigError} :
    readLines reader kind number block = .error error ↔
      StopsAt (fun line => ¬reader.Rejects line)
        (fun position line => reader.Rejects line ∧
          error = .malformedLine kind (number + position) line) block := by
  induction block generalizing number with
  | nil => simp [readLines, not_stopsAt_nil]
  | cons line block ih =>
      rw [stopsAt_cons_iff, readLines]
      simp only [← Nat.add_assoc, Nat.add_right_comm number _ 1, ← ih]
      by_cases blank : allBlank line = true
      · simp [blank, Reader.Rejects]
      · simp only [blank, Bool.false_eq_true, ↓reduceIte, bind_eq_error_iff, pure_ne_error,
          and_false, exists_false, or_false, readLine_eq_error_iff, readLine_eq_ok_iff]
        simp [Reader.Rejects, blank]

theorem readBlock_eq_ok_iff {reader : Reader Rec} {kind : RecordKind} {block : Text}
    {records : List Rec} :
    readBlock reader kind block = .ok records ↔
      List.Forall₂ reader.Reads (recordLines block) records :=
  readLines_eq_ok_iff

theorem readBlock_eq_error_iff {reader : Reader Rec} {kind : RecordKind} {block : Text}
    {error : ConfigError} :
    readBlock reader kind block = .error error ↔
      StopsAt (fun line => ¬reader.Rejects line)
        (fun position line => reader.Rejects line ∧
          error = .malformedLine kind (1 + position) line) (lines block) :=
  readLines_eq_error_iff

theorem exists_readBlock_eq_ok_iff {reader : Reader Rec} {kind : RecordKind} {block : Text} :
    (∃ records, readBlock reader kind block = .ok records) ↔
      ∀ line ∈ lines block, ¬reader.Rejects line := by
  simp only [readBlock_eq_ok_iff, exists_forall₂_iff, recordLines, List.mem_filter,
    Reader.Rejects]
  simp

end Supervision
