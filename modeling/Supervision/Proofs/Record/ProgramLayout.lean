import Supervision.Proofs.Record.Field
import Supervision.Proofs.Record.Line

/-!
Program lines as they are written. A line is read as a program exactly when it has this layout,
and then the fields of the program are those of the layout.
-/

namespace Supervision

open Text Reader RecordField

theorem isFlag_not_opensBracket {word : Text} (flag : isFlag word = true) :
    opensBracket word = false := by
  simp only [isFlag, Bool.or_eq_true, beq_iff_eq] at flag
  rcases flag with rfl | rfl <;> decide

/-! The words at the end of a program line. -/

namespace EndWords

variable (words : List Text)

def directory : Option Text :=
  firstWord (fun word => !isFlag word) words

def afterDirectory : List Text :=
  afterWord (fun word => !isFlag word) words

def flag : Option Text :=
  firstWord isFlag (afterDirectory words)

def afterFlag : List Text :=
  afterWord isFlag (afterDirectory words)

def user : Option Text :=
  (afterFlag words).head?

/-- At most three words, and three only as directory, flag and user. -/
def Fit : Prop :=
  words.length ≤ 2 ∨ ∃ directory flag user,
    words = [directory, flag, user] ∧ isFlag directory = false ∧ isFlag flag = true

theorem tail_afterFlag_eq_nil_iff : (afterFlag words).tail = [] ↔ Fit words := by
  unfold afterFlag afterDirectory Fit
  cases words with
  | nil => simp [afterWord]
  | cons first others =>
      by_cases firstFlag : isFlag first = true
      · cases others <;> simp [afterWord_cons, firstFlag]
      · cases others with
        | nil => simp [afterWord]
        | cons second others =>
            by_cases secondFlag : isFlag second = true
            · rcases others with _ | ⟨third, _ | ⟨fourth, others⟩⟩ <;>
                simp [afterWord_cons, firstFlag, secondFlag]
            · cases others <;> simp [afterWord_cons, firstFlag, secondFlag]

theorem reads {words : List Text} {text : Text} (trailing : Spaced words text)
    (unopened : ∀ word ∈ words, opensBracket word = false) :
    ∃ second third rest,
      maybe (spaced (wordWhere fun found => !isFlag found && !opensBracket found)) text =
        some (directory words, second) ∧
      maybe (spaced (wordWhere isFlag)) second = some (flag words, third) ∧
      maybe (spaced (wordWhere fun found => !opensBracket found)) third =
        some (user words, rest) ∧
      Spaced (afterFlag words).tail rest := by
  have noBracket : ∀ word ∈ words,
      (!isFlag word && !opensBracket word) = !isFlag word := by
    intro word member
    simp [unopened word member]
  have anyWord : ∀ word ∈ afterFlag words, (!opensBracket word) = true := by
    intro word member
    simp [unopened word (mem_of_mem_afterWord (mem_of_mem_afterWord member))]
  obtain ⟨second, directoryTaken, afterSecond⟩ :=
    trailing.maybe_word fun found => !isFlag found && !opensBracket found
  rw [firstWord_congr noBracket] at directoryTaken
  rw [afterWord_congr noBracket] at afterSecond
  obtain ⟨third, flagTaken, afterThird⟩ := afterSecond.maybe_word isFlag
  change Spaced (afterFlag words) third at afterThird
  obtain ⟨rest, userTaken, afterRest⟩ := afterThird.maybe_word fun found => !opensBracket found
  refine ⟨second, third, rest, directoryTaken, flagTaken, ?_, ?_⟩
  · rw [userTaken, firstWord_congr anyWord, user]
    cases afterFlag words <;> rfl
  · rw [afterWord_congr anyWord] at afterRest
    cases left : afterFlag words <;> rw [left] at afterRest <;> exact afterRest

theorem exists_words {first second third : Text} {directory flag user : Option Text}
    (directoryTaken : maybe (spaced (wordWhere fun found => !isFlag found && !opensBracket found))
      first = some (directory, second))
    (flagTaken : maybe (spaced (wordWhere isFlag)) second = some (flag, third))
    (userTaken : maybe (spaced (wordWhere fun found => !opensBracket found)) third =
      some (user, [])) :
    ∃ words, Spaced words first ∧ (∀ word ∈ words, opensBracket word = false) ∧ Fit words ∧
      EndWords.directory words = directory ∧ EndWords.flag words = flag ∧
      EndWords.user words = user := by
  obtain ⟨directoryText, directorySpaced, rfl, directoryWord⟩ := spaced_of_maybe_word directoryTaken
  obtain ⟨flagText, flagSpaced, rfl, flagWord⟩ := spaced_of_maybe_word flagTaken
  obtain ⟨userText, userSpaced, rfl, userWord⟩ := spaced_of_maybe_word userTaken
  have trailing : Spaced (directory.toList ++ (flag.toList ++ user.toList))
      (directoryText ++ (flagText ++ (userText ++ []))) := by
    rw [List.append_nil]
    exact directorySpaced.append (flagSpaced.append userSpaced)
  have unopened : ∀ word ∈ directory.toList ++ (flag.toList ++ user.toList),
      opensBracket word = false := by
    intro word member
    simp only [List.mem_append, Option.mem_toList] at member
    rcases member with isDirectory | isItsFlag | isUser
    · have accepted := directoryWord word isDirectory
      simp only [Bool.and_eq_true, Bool.not_eq_true'] at accepted
      exact accepted.2
    · exact isFlag_not_opensBracket (flagWord word isItsFlag)
    · simpa using userWord word isUser
  obtain ⟨otherSecond, otherThird, rest, directoryRead, flagRead, userRead, left⟩ :=
    reads trailing unopened
  -- Reading is a function: what was taken is what the words share out to.
  rw [directoryTaken, Option.some.injEq, Prod.mk.injEq] at directoryRead
  obtain ⟨directoryEq, rfl⟩ := directoryRead
  rw [flagTaken, Option.some.injEq, Prod.mk.injEq] at flagRead
  obtain ⟨flagEq, rfl⟩ := flagRead
  rw [userTaken, Option.some.injEq, Prod.mk.injEq] at userRead
  obtain ⟨userEq, rfl⟩ := userRead
  exact ⟨_, trailing, unopened, (tail_afterFlag_eq_nil_iff _).mp left.eq_nil,
    directoryEq.symm, flagEq.symm, userEq.symm⟩

end EndWords

structure ProgramLayout where
  priority : Text
  name : Text
  settings : Option Text
  command : Text
  arguments : Option Text
  trailing : List Text
  priority_word : Word priority
  priority_digits : ∀ c ∈ priority, c.isDigit = true
  name_word : Word name
  command_word : Word command
  trailing_unopened : ∀ word ∈ trailing, word.head? ≠ some '['
  trailing_fit : EndWords.Fit trailing

namespace ProgramLayout

/-- The text has this layout. Settings are left out only where no closed pair of parentheses with
something in it stands after the name. -/
def Written (layout : ProgramLayout) (text : Text) : Prop :=
  ∃ firstGap settings secondGap arguments trailing,
    Gap firstGap ∧ Bracketed '(' ')' layout.settings settings ∧ Gap secondGap ∧
      Bracketed '[' ']' layout.arguments arguments ∧ Spaced layout.trailing trailing ∧
      (layout.settings = none →
        ¬Opens '(' ')' (layout.command ++ arguments ++ trailing)) ∧
      text = layout.priority ++ firstGap ++ layout.name ++ settings ++ secondGap ++
        layout.command ++ arguments ++ trailing

def program (layout : ProgramLayout) : Program where
  priority := layout.priority
  name := layout.name
  command := layout.command
  arguments := layout.arguments
  directory := EndWords.directory layout.trailing
  redirectStderr := EndWords.flag layout.trailing == some "true".toList
  user := EndWords.user layout.trailing
  extras := (layout.settings.map Extras.parse).getD Extras.empty

end ProgramLayout

namespace Program

theorem exists_layout {text : Text} {program : Program}
    (taken : Program.reader text = some (program, [])) :
    ∃ layout : ProgramLayout, layout.Written text ∧ layout.program = program := by
  simp only [Program.reader, bind_eq_some_iff, pure_eq_some_iff] at taken
  obtain ⟨priority, afterPriority, priorityTaken, _, atName, firstTaken, name, afterName,
    nameTaken, extras, afterSettings, settingsTaken, _, atCommand, secondTaken, command,
    afterCommand, commandTaken, arguments, afterArguments, argumentsTaken, directory,
    afterDirectory, directoryTaken, flag, afterFlag, flagTaken, user, afterUser, userTaken,
    rfl, rfl⟩ := taken
  obtain ⟨digits, priorityWord, -, rfl⟩ := wordWhere_eq_some_iff.mp priorityTaken
  obtain ⟨firstGap, firstNonempty, firstBlank, rfl, -⟩ := gap_eq_some_iff.mp firstTaken
  obtain ⟨nameNonempty, nameInk, rfl, -⟩ := word_eq_some_iff.mp nameTaken
  obtain ⟨block, settings, secondGap, settingsWritten, secondGapped, -, rfl, unopened, rfl⟩ :=
    settings_gap_iff.mp ⟨afterSettings, settingsTaken, secondTaken⟩
  obtain ⟨commandNonempty, commandInk, rfl, -⟩ := word_eq_some_iff.mp commandTaken
  obtain ⟨argumentsText, argumentsWritten, rfl, -⟩ :=
    (maybe_delimited_eq_some_iff (by decide)).mp argumentsTaken
  obtain ⟨words, trailing, noBracket, fit, rfl, rfl, rfl⟩ :=
    EndWords.exists_words directoryTaken flagTaken userTaken
  refine ⟨{
    priority, name, settings := block, command, arguments, trailing := words
    priority_word := priorityWord
    priority_digits := fun c member => List.all_eq_true.mp digits c member
    name_word := ⟨nameNonempty, nameInk⟩
    command_word := ⟨commandNonempty, commandInk⟩
    trailing_unopened := fun word member => by simpa [opensBracket] using noBracket word member
    trailing_fit := fit }, ?_, rfl⟩
  exact ⟨firstGap, settings, secondGap, argumentsText, afterArguments,
    ⟨firstNonempty, firstBlank⟩, settingsWritten, secondGapped, argumentsWritten, trailing,
    by simpa using unopened, by simp⟩

theorem reader_layout {text : Text} {layout : ProgramLayout} (written : layout.Written text) :
    Program.reader text = some (layout.program, []) := by
  obtain ⟨firstGap, settings, secondGap, arguments, trailing, firstGapped, settingsWritten,
    secondGapped, argumentsWritten, trailingSpaced, unopened, rfl⟩ := written
  have noBracket : ∀ word ∈ layout.trailing, word.head? ≠ some '[' := layout.trailing_unopened
  have afterPriority := firstGapped.startsBlank
    (layout.name ++ (settings ++ secondGap ++ (layout.command ++ (arguments ++ trailing))))
  have afterName : StartsBlank (settings ++ secondGap ++
      (layout.command ++ (arguments ++ trailing))) := by
    rw [List.append_assoc]
    exact settingsWritten.startsBlank (secondGapped.startsBlank _)
  have afterCommand : StartsBlank (arguments ++ trailing) :=
    argumentsWritten.startsBlank trailingSpaced.startsBlank
  have commandInk := startsInk_word_append layout.command_word (arguments ++ trailing)
  have priorityRead := digits_append layout.priority_word layout.priority_digits afterPriority
  have firstRead := gap_append firstGapped (startsInk_word_append layout.name_word
    (settings ++ secondGap ++ (layout.command ++ (arguments ++ trailing))))
  have nameRead := word_append layout.name_word afterName
  obtain ⟨middle, settingsRead, secondRead⟩ := settings_gap_iff.mpr
    ⟨layout.settings, settings, secondGap, settingsWritten, secondGapped, commandInk, rfl,
      by simpa using unopened, rfl⟩
  have commandRead := word_append layout.command_word afterCommand
  have argumentsRead := arguments_append argumentsWritten
    (trailingSpaced.spaced_delimited_eq_none (by decide) noBracket)
  obtain ⟨second, third, rest, directoryRead, flagRead, userRead, left⟩ :=
    EndWords.reads trailingSpaced fun word member => by simpa [opensBracket] using noBracket word member
  -- The words fit, so that nothing is left after the user.
  rw [(EndWords.tail_afterFlag_eq_nil_iff _).mpr layout.trailing_fit] at left
  obtain rfl := left.text_eq_nil
  have whole : layout.priority ++ firstGap ++ layout.name ++ settings ++ secondGap ++
      layout.command ++ arguments ++ trailing = layout.priority ++ (firstGap ++ (layout.name ++
        (settings ++ secondGap ++ (layout.command ++ (arguments ++ trailing))))) := by simp
  rw [whole]
  simp only [Program.reader, bind_eq_some_iff, pure_eq_some_iff]
  exact ⟨layout.priority, _, priorityRead, (), _, firstRead, layout.name, _, nameRead,
    _, middle, settingsRead, (), _, secondRead, layout.command, _, commandRead,
    layout.arguments, _, argumentsRead, _, _, directoryRead, _, _, flagRead, _, _, userRead, rfl, rfl⟩

theorem reader_eq_some_iff {text : Text} {program : Program} :
    Program.reader text = some (program, []) ↔
      ∃ layout : ProgramLayout, layout.Written text ∧ layout.program = program := by
  constructor
  · exact exists_layout
  · rintro ⟨layout, written, rfl⟩
    exact reader_layout written

theorem conserves_reader : Reader.Conserves Program.reader :=
  (conserves_wordWhere _).bind fun _ => conserves_gap.bind fun _ => conserves_word.bind fun _ =>
    conserves_settings.bind fun _ => conserves_gap.bind fun _ => conserves_word.bind fun _ =>
      conserves_arguments.bind fun _ =>
        (conserves_maybe (conserves_spaced (conserves_wordWhere _))).bind fun _ =>
          (conserves_maybe (conserves_spaced (conserves_wordWhere _))).bind fun _ =>
            (conserves_maybe (conserves_spaced (conserves_wordWhere _))).bind fun _ =>
              conserves_pure _

theorem reads_iff {line : Text} {program : Program} :
    Program.reader.Reads line program ↔
      ∃ layout : ProgramLayout, layout.Written (trim line) ∧ layout.program = program :=
  conserves_reader.reads_iff.trans reader_eq_some_iff

theorem program_of_written {line : Text} {program : Program} {layout : ProgramLayout}
    (reads : Program.reader.Reads line program) (written : layout.Written (trim line)) :
    layout.program = program :=
  Reader.Reads.unique (reads_iff.mpr ⟨layout, written, rfl⟩) reads

end Program

/-- The grammar of program lines, exact in both directions: the programs read from a line are those
of the layouts it is written in. -/
theorem readLine_program_iff (kind : RecordKind) (number : Nat) (line : Text) (program : Program) :
    readLine Program.reader kind number line = .ok program ↔
      ∃ layout : ProgramLayout, layout.Written (trim line) ∧ layout.program = program :=
  readLine_eq_ok_iff.trans Program.reads_iff

end Supervision
