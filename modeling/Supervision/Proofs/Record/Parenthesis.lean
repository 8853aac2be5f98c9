import Supervision.Proofs.Record.Layout
import Supervision.Proofs.Record.ProgramLayout

/-!
The parenthesis after the name of a process. It holds the settings only if it is closed and there is
something in it; any other parenthesis is the beginning of the next field.
-/

namespace Supervision

open Text Reader RecordField

/-- What follows the first word of a text, from the next character that is not blank. -/
def Text.afterFirstWord (text : Text) : Text :=
  trimStart ((trimStart text).dropWhile isInk)

theorem Text.afterFirstWord_append {word blanks rest : Text} (ink : Word word) (gapped : Gap blanks)
    (starts : StartsInk rest) : afterFirstWord (word ++ (blanks ++ rest)) = rest := by
  have front : trimStart (word ++ (blanks ++ rest)) = word ++ (blanks ++ rest) :=
    (takeWhile_dropWhile_iff.mpr
      ⟨(List.nil_append _).symm, by simp, startsInk_word_append ink _⟩).2
  have back : (word ++ (blanks ++ rest)).dropWhile isInk = blanks ++ rest :=
    (takeWhile_dropWhile_iff.mpr ⟨rfl, ink.2, gapped.startsBlank rest⟩).2
  rw [afterFirstWord, front, back]
  exact (takeWhile_dropWhile_iff.mpr ⟨rfl, gapped.2, starts⟩).2

theorem RecordField.opens_cons_iff {opening closing : Char} {tail : Text} :
    Opens opening closing (opening :: tail) ↔ closing ∈ tail ∧ tail.head? ≠ some closing := by
  constructor
  · rintro ⟨content, rest, ⟨nonempty, unclosed⟩, equal⟩
    obtain rfl := (List.cons.inj equal).2
    refine ⟨by simp, ?_⟩
    cases content with
    | nil => exact absurd rfl nonempty
    | cons c content =>
        intro closes
        obtain rfl := Option.some.inj closes
        exact unclosed List.mem_cons_self
  · rintro ⟨closed, something⟩
    obtain ⟨content, rest, rfl, unclosed⟩ := List.eq_append_cons_of_mem closed
    refine ⟨content, rest, ⟨?_, unclosed⟩, rfl⟩
    rintro rfl
    exact something rfl

/-- What becomes of the text after an opening parenthesis that follows a name. -/
inductive ParenthesisTaken (extras : Extras) (field : Text) : Text → Prop
  | settings {content rest : Text} : content ≠ [] → ')' ∉ content → extras = Extras.parse content →
      (words rest).head? = some field → ParenthesisTaken extras field (content ++ ')' :: rest)
  /-- One that is empty or not closed is no settings: the next field begins with it. -/
  | field {tail : Text} : tail.head? = some ')' ∨ ')' ∉ tail → extras = Extras.empty →
      (words ('(' :: tail)).head? = some field → ParenthesisTaken extras field tail

theorem parenthesisTaken_of_written {block : Option Text} {name settings blanks field rest tail : Text}
    (nameWord : Word name) (written : Bracketed '(' ')' block settings) (gapped : Gap blanks)
    (fieldWord : Word field) (stops : StartsBlank rest)
    (unopened : block = none → ¬Opens '(' ')' (field ++ rest))
    (opens : afterFirstWord (name ++ (settings ++ (blanks ++ (field ++ rest)))) = '(' :: tail) :
    ParenthesisTaken ((block.map Extras.parse).getD Extras.empty) field tail := by
  cases written with
  | absent =>
      have starts := startsInk_word_append fieldWord rest
      rw [List.nil_append, afterFirstWord_append nameWord gapped starts] at opens
      have noSettings := unopened rfl
      rw [opens, opens_cons_iff, and_comm, not_and_or, not_not] at noSettings
      refine .field noSettings rfl ?_
      rw [← opens, fieldWord.words_append stops]
      rfl
  | @present before content beforeGapped enclosed =>
      have starts : StartsInk ('(' :: (content ++ ')' :: (blanks ++ (field ++ rest)))) :=
        Opens.startsInk (by decide) ⟨content, _, enclosed, rfl⟩
      have whole : before ++ '(' :: content ++ [')'] ++ (blanks ++ (field ++ rest)) =
          before ++ '(' :: (content ++ ')' :: (blanks ++ (field ++ rest))) := by simp
      rw [whole, afterFirstWord_append nameWord beforeGapped starts] at opens
      rw [← (List.cons.inj opens).2]
      refine .settings enclosed.1 enclosed.2 rfl ?_
      rw [gapped.words_append, fieldWord.words_append stops]
      rfl

theorem Program.parenthesisTaken {line tail : Text} {program : Program}
    (reads : Program.reader.Reads line program)
    (opens : afterFirstWord (afterFirstWord (trim line)) = '(' :: tail) :
    ParenthesisTaken program.extras program.command tail := by
  obtain ⟨layout, ⟨firstGap, settings, secondGap, arguments, trailing, firstGapped, settingsWritten,
    secondGapped, argumentsWritten, trailingSpaced, unopened, equal⟩, rfl⟩ := Program.reads_iff.mp reads
  have stops : StartsBlank (arguments ++ trailing) :=
    argumentsWritten.startsBlank trailingSpaced.startsBlank
  have atName := startsInk_word_append layout.name_word
    (settings ++ (secondGap ++ (layout.command ++ (arguments ++ trailing))))
  simp only [equal, List.append_assoc] at opens unopened
  rw [afterFirstWord_append layout.priority_word firstGapped atName] at opens
  exact parenthesisTaken_of_written layout.name_word settingsWritten secondGapped
    layout.command_word stops unopened opens

theorem EventListener.parenthesisTaken {line tail : Text} {listener : EventListener}
    (reads : EventListener.reader.Reads line listener)
    (opens : afterFirstWord (trim line) = '(' :: tail) :
    ParenthesisTaken listener.extras listener.events tail := by
  obtain ⟨layout, ⟨settings, firstGap, secondGap, arguments, settingsWritten, firstGapped,
    secondGapped, -, unopened, equal⟩, rfl⟩ := EventListener.reads_iff.mp reads
  have stops : StartsBlank (secondGap ++ (layout.command ++ arguments)) := secondGapped.startsBlank _
  simp only [equal, List.append_assoc] at opens unopened
  exact parenthesisTaken_of_written layout.name_word settingsWritten firstGapped
    layout.events_word stops unopened opens

/-- Where a parenthesis follows the name of an accepted line, it is the option block exactly when it
is closed with something in it. An empty or unclosed one is taken for the next field: the command of
a program, the events of a listener. -/
theorem parenthesis_after_name (kind : RecordKind) (number : Nat) (line tail : Text) :
    (∀ program, readLine Program.reader kind number line = .ok program →
      afterFirstWord (afterFirstWord (trim line)) = '(' :: tail →
        ParenthesisTaken program.extras program.command tail) ∧
    (∀ listener, readLine EventListener.reader kind number line = .ok listener →
      afterFirstWord (trim line) = '(' :: tail →
        ParenthesisTaken listener.extras listener.events tail) :=
  ⟨fun _ read => Program.parenthesisTaken (readLine_eq_ok_iff.mp read),
    fun _ read => EventListener.parenthesisTaken (readLine_eq_ok_iff.mp read)⟩

theorem parenthesis_after_name_with_settings :
    let line : Text := "10 web (a=1 (b) (c /bin/web"
    let program : Program :=
      ⟨"10", "web", "(c", none, some "/bin/web".toList, false, none, ⟨[("a", "1")]⟩⟩
    readLine Program.reader .program 1 line = .ok program ∧
      afterFirstWord (afterFirstWord (trim line)) = '(' :: "a=1 (b) (c /bin/web".toList ∧
      ParenthesisTaken program.extras program.command "a=1 (b) (c /bin/web" := by
  intro line program
  have read : readLine Program.reader .program 1 line = .ok program := by decide +kernel
  have opens : afterFirstWord (afterFirstWord (trim line)) =
      '(' :: "a=1 (b) (c /bin/web".toList := by decide +kernel
  exact ⟨read, opens, (parenthesis_after_name .program 1 line _).1 program read opens⟩

/-- A parenthesis is not always the option block: an empty one is the command of this program, and an
unclosed one the events of this listener. -/
theorem exists_parenthesis_taken_for_field :
    (∃ line program, readLine Program.reader .program 1 line = .ok program ∧
      afterFirstWord (afterFirstWord (trim line)) = "() /bin/web".toList ∧
      program.command = "()".toList ∧ program.extras = Extras.empty) ∧
    (∃ line listener, readLine EventListener.reader .eventListener 1 line = .ok listener ∧
      afterFirstWord (trim line) = "(a=b /bin/listen".toList ∧
      listener.events = "(a=b".toList ∧ listener.extras = Extras.empty) := by
  refine ⟨⟨"10 web () /bin/web",
    ⟨"10", "web", "()", none, some "/bin/web".toList, false, none, Extras.empty⟩, ?_⟩,
    ⟨"log (a=b /bin/listen", ⟨"log", "(a=b", "/bin/listen", none, Extras.empty⟩, ?_⟩⟩
  · decide +kernel
  · decide +kernel

end Supervision
