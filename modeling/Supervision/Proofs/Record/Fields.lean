import Supervision.Proofs.Record.Layout
import Supervision.Proofs.Record.ProgramLayout

/-!
What can stand in the fields of a record that was read: words, and for the arguments any text of
its line.
-/

namespace Supervision

open Text RecordField

def Extras.Words (extras : Extras) : Prop :=
  ∀ pair ∈ extras.pairs, Word pair.1 ∧ Word pair.2

theorem Extras.words_parse (block : Text) : (Extras.parse block).Words := by
  intro pair member
  obtain ⟨token, inside, setting⟩ := List.mem_filterMap.mp member
  obtain ⟨-, ink⟩ := word_of_mem_words inside
  obtain ⟨cut, nonempty⟩ := Option.filter_eq_some_iff.mp setting
  obtain ⟨-, rfl⟩ := splitOnce_eq_some_iff.mp cut
  simp only [Bool.and_eq_true, Bool.not_eq_true', List.isEmpty_eq_false_iff] at nonempty
  exact ⟨⟨nonempty.1, fun c found => ink c (List.mem_append_left _ found)⟩,
    ⟨nonempty.2, fun c found => ink c (List.mem_append_right _ (List.mem_cons_of_mem _ found))⟩⟩

theorem Extras.words_getD (block : Option Text) :
    Extras.Words ((block.map Extras.parse).getD Extras.empty) := by
  cases block with
  | none =>
      intro pair member
      exact absurd member List.not_mem_nil
  | some block => exact words_parse block

theorem RecordField.Bracketed.subset {opening closing : Char} {written : Text} {found : Option Text}
    (field : Bracketed opening closing found written) : ∀ content ∈ found, content ⊆ written := by
  intro content present
  cases field with
  | absent => simp at present
  | present _ _ =>
      obtain rfl := Option.some.inj present
      intro c member
      simp [member]

theorem RecordField.Spaced.word_of_mem {words : List Text} {text : Text} (trailing : Spaced words text) :
    ∀ word ∈ words, Word word := by
  induction trailing with
  | nil => simp
  | cons _ wordInk _ ih => exact List.forall_mem_cons.mpr ⟨wordInk, ih⟩

theorem mem_of_mem_firstWord {accepts : Text → Bool} {words : List Text} {word : Text}
    (found : word ∈ firstWord accepts words) : word ∈ words :=
  List.mem_of_mem_head? (Option.filter_eq_some_iff.mp found).1

structure Program.Held (line : Text) (program : Program) : Prop where
  priority : Word program.priority
  name : Word program.name
  command : Word program.command
  arguments : ∀ content ∈ program.arguments, content ⊆ line
  directory : ∀ word ∈ program.directory, Word word
  user : ∀ word ∈ program.user, Word word
  extras : program.extras.Words

theorem Program.held_of_reads {line : Text} {program : Program}
    (reads : Program.reader.Reads line program) : Program.Held line program := by
  obtain ⟨layout, written, rfl⟩ := Program.reads_iff.mp reads
  obtain ⟨firstGap, settings, secondGap, arguments, trailing, -, -, -, argumentsWritten,
    trailingSpaced, -, equal⟩ := written
  refine {
    priority := layout.priority_word
    name := layout.name_word
    command := layout.command_word
    arguments := ?_
    directory := fun word found => trailingSpaced.word_of_mem word (mem_of_mem_firstWord found)
    user := ?_
    extras := Extras.words_getD layout.settings }
  · intro content found c member
    have written := argumentsWritten.subset content found member
    refine mem_of_mem_trim ?_
    rw [equal]
    simp [written]
  · intro word found
    have left : word ∈ EndWords.afterFlag layout.trailing := List.mem_of_mem_head? found
    exact trailingSpaced.word_of_mem word (mem_of_mem_afterWord (mem_of_mem_afterWord left))

structure EventListener.Held (line : Text) (listener : EventListener) : Prop where
  name : Word listener.name
  events : Word listener.events
  command : Word listener.command
  arguments : ∀ content ∈ listener.arguments, content ⊆ line
  extras : listener.extras.Words

theorem EventListener.held_of_reads {line : Text} {listener : EventListener}
    (reads : EventListener.reader.Reads line listener) : EventListener.Held line listener := by
  obtain ⟨layout, written, rfl⟩ := EventListener.reads_iff.mp reads
  obtain ⟨settings, firstGap, secondGap, arguments, -, -, -, argumentsWritten, -, equal⟩ := written
  refine {
    name := layout.name_word
    events := layout.events_word
    command := layout.command_word
    arguments := ?_
    extras := Extras.words_getD layout.settings }
  intro content found c member
  have written := argumentsWritten.subset content found member
  refine mem_of_mem_trim ?_
  rw [equal]
  simp [written]

structure Group.Held (group : Group) : Prop where
  priority : Word group.priority
  name : Word group.name
  members : ∀ member ∈ group.members, Word member

theorem Group.held_of_reads {line : Text} {group : Group}
    (reads : Group.reader.Reads line group) : group.Held := by
  obtain ⟨layout, -, rfl⟩ := Group.reads_iff.mp reads
  refine ⟨layout.priority_word, layout.name_word, ?_⟩
  intro member found
  obtain ⟨nonempty, uncut⟩ := mem_runs found
  refine ⟨nonempty, fun c inside => isInk_eq_true.mpr ?_⟩
  have apart := (uncut c inside).2
  simp only [Group.separates, Bool.or_eq_false_iff] at apart
  exact apart.2

theorem Plugin.words_of_reads {line : Text} {plugin : Plugin}
    (reads : Plugin.reader.Reads line plugin) : Word plugin.name ∧ Word plugin.callable := by
  obtain ⟨layout, -, rfl⟩ := Plugin.reads_iff.mp reads
  exact ⟨layout.name_word, layout.callable_word⟩

end Supervision
