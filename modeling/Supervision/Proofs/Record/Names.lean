import Supervision.Proofs.Record.Layout
import Supervision.Proofs.Record.ProgramLayout

/-!
Where the name of a record stands in its line: it is the first word, or the second one after a
priority.
-/

namespace Supervision

open Text

/-- The name of a record is the word at this position of its line, counted from zero. -/
def Reader.NamedAt {Rec : Type} (reader : Reader Rec) (name : Rec → Text) (position : Nat) : Prop :=
  ∀ line record, reader.Reads line record → (words line)[position]? = some (name record)

def wordAt (position : Nat) (line : Text) : Text :=
  (words line).getD position []

theorem words_second {first blanks second rest : Text} (firstWord : Word first) (gapped : Gap blanks)
    (secondWord : Word second) (stops : StartsBlank rest) :
    words (first ++ (blanks ++ (second ++ rest))) = first :: second :: words rest := by
  rw [firstWord.words_append (gapped.startsBlank _), gapped.words_append,
    secondWord.words_append stops]

theorem Program.namedAt : Program.reader.NamedAt Program.name 1 := by
  intro line program reads
  obtain ⟨layout, written, rfl⟩ := Program.reads_iff.mp reads
  obtain ⟨firstGap, settings, secondGap, arguments, trailing, firstGapped, settingsWritten,
    secondGapped, -, -, -, equal⟩ := written
  have stops : StartsBlank (settings ++ (secondGap ++ (layout.command ++ (arguments ++ trailing)))) :=
    settingsWritten.startsBlank (secondGapped.startsBlank _)
  have found := words_second layout.priority_word firstGapped layout.name_word stops
  rw [← words_trim, equal]
  simp only [List.append_assoc, found]
  rfl

theorem EventListener.namedAt : EventListener.reader.NamedAt EventListener.name 0 := by
  intro line listener reads
  obtain ⟨layout, written, rfl⟩ := EventListener.reads_iff.mp reads
  obtain ⟨settings, firstGap, secondGap, arguments, settingsWritten, firstGapped, -, -, -, equal⟩ :=
    written
  have stops : StartsBlank (settings ++ (firstGap ++ (layout.events ++ (secondGap ++
      (layout.command ++ arguments))))) :=
    settingsWritten.startsBlank (firstGapped.startsBlank _)
  rw [← words_trim, equal]
  simp only [List.append_assoc, layout.name_word.words_append stops]
  rfl

theorem Group.namedAt : Group.reader.NamedAt Group.name 1 := by
  intro line group reads
  obtain ⟨layout, ⟨firstGap, secondGap, firstGapped, secondGapped, equal⟩, rfl⟩ :=
    Group.reads_iff.mp reads
  have found := words_second layout.priority_word firstGapped layout.name_word
    (secondGapped.startsBlank layout.listed)
  rw [← words_trim, equal]
  simp only [List.append_assoc, found]
  rfl

theorem Plugin.namedAt : Plugin.reader.NamedAt Plugin.name 0 := by
  intro line plugin reads
  obtain ⟨layout, ⟨blanks, gapped, equal⟩, rfl⟩ := Plugin.reads_iff.mp reads
  rw [← words_trim, equal, List.append_assoc, layout.name_word.words_append (gapped.startsBlank _)]
  rfl

namespace Reader.NamedAt

variable {Rec : Type} {reader : Reader Rec} {name : Rec → Text} {position : Nat}
  {lines : List Text} {records : List Rec}

theorem map_name_eq (named : reader.NamedAt name position)
    (all : List.Forall₂ reader.Reads lines records) :
    records.map name = lines.map (wordAt position) := by
  refine Outcome.map_eq_map_of_forall₂ all ?_
  intro line record reads
  rw [wordAt, List.getD, named line record reads]
  rfl

theorem lt_length (named : reader.NamedAt name position)
    (all : List.Forall₂ reader.Reads lines records) :
    ∀ line ∈ lines, position < (words line).length := by
  intro line member
  obtain ⟨record, reads⟩ := Outcome.exists_forall₂_iff.mp ⟨records, all⟩ line member
  obtain ⟨bound, -⟩ := List.getElem?_eq_some_iff.mp (named line record reads)
  exact bound

end Reader.NamedAt

end Supervision
