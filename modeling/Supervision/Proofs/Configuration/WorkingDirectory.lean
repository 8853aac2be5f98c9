import Supervision.Proofs.Configuration.Directives
import Supervision.Proofs.Path.Dirname
import Supervision.Proofs.Record.Settings

/-!
The directory that a program works in: the word of its line for it, else the directory part of its
command. Its section has that before what the settings of the line say.
-/

namespace Supervision

open Text Reader Outcome

namespace Program

/-- The command of a line, and the word at its end that is the directory, if there is one. -/
def LineRuns (line command : Text) (word : Option Text) : Prop :=
  ∃ layout : ProgramLayout, layout.Written (trim line) ∧ layout.command = command ∧
    EndWords.directory layout.trailing = word

theorem lineRuns_iff {line command : Text} {word : Option Text} {program : Program}
    (reads : Program.reader.Reads line program) :
    LineRuns line command word ↔ command = program.command ∧ word = program.directory := by
  constructor
  · rintro ⟨layout, written, rfl, rfl⟩
    rw [← program_of_written reads written]
    exact ⟨rfl, rfl⟩
  · rintro ⟨rfl, rfl⟩
    obtain ⟨layout, written, rfl⟩ := Program.reads_iff.mp reads
    exact ⟨layout, written, rfl, rfl⟩

/-- The directory for a command with or without a word for it. A bare command has none. -/
inductive WorksIn (command : Text) : Option Text → Option Text → Prop
  | given {directory : Text} : WorksIn command (some directory) (some directory)
  | derived {directory : Text} : Path.DirectoryPart command directory →
      WorksIn command none (some directory)
  | bare : '/' ∉ command → WorksIn command none none

theorem WorksIn.ne_none_iff {command : Text} {word directory : Option Text}
    (worksIn : WorksIn command word directory) :
    directory ≠ none ↔ word ≠ none ∨ '/' ∈ command := by
  cases worksIn with
  | given => simp
  | derived part => simp [(Path.directoryPart_iff.mp part).1]
  | bare absent => simp [absent]

theorem WorksIn.unique {command : Text} {word first second : Option Text}
    (worksIn : WorksIn command word first) (other : WorksIn command word second) :
    first = second := by
  cases worksIn with
  | given =>
      cases other
      rfl
  | derived part =>
      obtain ⟨slash, rfl⟩ := Path.directoryPart_iff.mp part
      cases other with
      | derived part => rw [(Path.directoryPart_iff.mp part).2]
      | bare absent => exact absurd slash absent
  | bare absent =>
      cases other with
      | derived part => exact absurd (Path.directoryPart_iff.mp part).1 absent
      | bare _ => rfl

theorem worksIn_workingDirectory (program : Program) :
    WorksIn program.command program.directory program.workingDirectory := by
  unfold workingDirectory
  cases program.directory with
  | some word => exact .given
  | none =>
      by_cases slash : '/' ∈ program.command
      · have nonempty : Path.dirname program.command ≠ [] :=
          mt Path.dirname_eq_nil_iff.mp (not_not_intro slash)
        simp only [Option.filter_some, List.isEmpty_eq_false_iff.mpr nonempty, Bool.not_false,
          ↓reduceIte]
        exact .derived (Path.directoryPart_iff.mpr ⟨slash, rfl⟩)
      · rw [Path.dirname_eq_nil_iff.mpr slash]
        exact .bare slash

theorem worksIn_iff {program : Program} {directory : Option Text} :
    WorksIn program.command program.directory directory ↔
      directory = program.workingDirectory := by
  constructor
  · exact fun worksIn => worksIn.unique program.worksIn_workingDirectory
  · rintro rfl
    exact program.worksIn_workingDirectory

theorem valuesUnder_directory (program : Program) (limits : LogLimits) :
    valuesUnder "directory" (program.toSection limits).entries =
      program.workingDirectory.toList ++ valuesUnder "directory" program.extras.pairs := by
  have fixed : valuesUnder "directory" (Ini.Section.ofSettings ("program:".toList ++ program.name) [
      ("command", some (commandLine program.command program.arguments)),
      ("process_name", some program.name),
      ("directory", program.workingDirectory),
      ("priority", some program.priority),
      ("redirect_stderr", some (ofBool program.redirectStderr)),
      ("user", program.user)]).entries = program.workingDirectory.toList := by
    cases program.workingDirectory <;> cases program.user <;> rfl
  have noLimit : valuesUnder "directory"
      (limits.settings.filter fun limit => !program.extras.contains limit.1) = [] := by
    rw [valuesUnder_eq_nil_iff]
    intro member
    have known := limits.keys_sublist.subset ((List.filter_sublist.map Prod.fst).subset member)
    exact absurd known (by decide)
  simp only [toSection, valuesUnder_append, fixed, noLimit, List.append_nil]

end Program

/-- The first directory of a section is the word of its line for it, else the directory part of the
command. Where the settings of the line name no directory there is no other, and where there is
neither a word nor a slash in the command there are those that the settings name. -/
theorem directory_rendered {kind : RecordKind} {number : Nat} {line : Text} {program : Program}
    (accepted : readLine Program.reader kind number line = .ok program) :
    (∃ command word settings directory,
      (∀ other given, Program.LineRuns line other given ↔ other = command ∧ given = word) ∧
      (∀ given, Program.LineSets line given ↔ given = settings) ∧
      (∀ other, Program.WorksIn command word other ↔ other = directory) ∧
      ∀ limits : LogLimits,
        let values := valuesUnder "directory" (program.toSection limits).entries
        (values ≠ [] ↔
          word ≠ none ∨ '/' ∈ command ∨ valuesUnder "directory" settings ≠ []) ∧
        (∀ own ∈ directory, values.head? = some own) ∧
        (valuesUnder "directory" settings = [] → values = directory.toList) ∧
        (directory = none → values = valuesUnder "directory" settings)) ∧
    (∀ path directory,
      Path.DirectoryPart path directory ↔ '/' ∈ path ∧ directory = Path.dirname path) ∧
    ∀ path, Path.dirname path <+: path ∧ (Path.dirname path = [] ↔ '/' ∉ path) := by
  refine ⟨?_, fun _ _ => Path.directoryPart_iff,
    fun path => ⟨Path.dirname_prefix path, Path.dirname_eq_nil_iff⟩⟩
  have reads := readLine_eq_ok_iff.mp accepted
  refine ⟨program.command, program.directory, program.extras.pairs, program.workingDirectory,
    fun _ _ => Program.lineRuns_iff reads, fun _ => Program.lineSets_iff reads,
    fun _ => Program.worksIn_iff, fun limits => ?_⟩
  rw [program.valuesUnder_directory limits]
  have worksIn := program.worksIn_workingDirectory
  refine ⟨?_, ?_, ?_, ?_⟩
  · rw [← or_assoc, ← worksIn.ne_none_iff, Ne, List.append_eq_nil_iff, not_and_or,
      Option.toList_eq_nil_iff]
  · intro own found
    rw [Option.mem_def.mp found]
    rfl
  · intro none
    rw [none, List.append_nil]
  · intro none
    rw [none]
    rfl

theorem directory_rendered_from_command :
    let line : Text := "7 web (umask=022) /opt//app//run [-v] true www".toList
    ∃ program, readLine Program.reader .program 1 line = .ok program ∧
      Program.LineRuns line "/opt//app//run".toList none ∧
      ∀ limits : LogLimits, valuesUnder "directory" (program.toSection limits).entries =
        ["/opt//app".toList] := by
  intro line
  obtain ⟨program, accepted, read⟩ : ∃ program,
      readLine Program.reader .program 1 line = .ok program ∧
        decide (program.command = "/opt//app//run".toList ∧ program.directory = none ∧
          valuesUnder "directory" program.extras.pairs = []) = true :=
    exists_eq_ok_of_any (by decide +kernel)
  obtain ⟨commandIs, noWord, noSetting⟩ := of_decide_eq_true read
  have reads := readLine_eq_ok_iff.mp accepted
  obtain ⟨⟨command, word, settings, directory, runs, sets, works, rendered⟩, -⟩ :=
    directory_rendered accepted
  have lineRuns : Program.LineRuns line "/opt//app//run".toList none :=
    (Program.lineRuns_iff reads).mpr ⟨commandIs.symm, noWord.symm⟩
  obtain ⟨rfl, rfl⟩ := (runs _ _).mp lineRuns
  obtain rfl : program.extras.pairs = settings := (sets _).mp ((Program.lineSets_iff reads).mpr rfl)
  have derived : Path.dirname "/opt//app//run".toList = "/opt//app".toList := by decide
  obtain rfl := (works _).mp (.derived (Path.directoryPart_iff.mpr ⟨by decide, derived.symm⟩))
  refine ⟨program, accepted, lineRuns, fun limits => ?_⟩
  obtain ⟨-, -, only, -⟩ := rendered limits
  exact only noSetting

/-- A line without a word for the directory and with a bare command can name one in its settings,
and its section has that. -/
theorem exists_directory_of_bare_command :
    let line : Text := "10 web (directory=/tmp) run".toList
    ∃ program, readLine Program.reader .program 1 line = .ok program ∧
      (∀ command word, Program.LineRuns line command word → word = none ∧ '/' ∉ command) ∧
      ∀ limits : LogLimits,
        ("directory".toList, "/tmp".toList) ∈ (program.toSection limits).entries := by
  intro line
  obtain ⟨program, accepted, read⟩ : ∃ program,
      readLine Program.reader .program 1 line = .ok program ∧
        decide (program.command = "run".toList ∧ program.directory = none ∧
          ("directory".toList, "/tmp".toList) ∈ program.extras.pairs) = true :=
    exists_eq_ok_of_any (by decide +kernel)
  obtain ⟨commandIs, noWord, named⟩ := of_decide_eq_true read
  have reads := readLine_eq_ok_iff.mp accepted
  refine ⟨program, accepted, ?_, fun limits => ?_⟩
  · intro command word lineRuns
    obtain ⟨rfl, rfl⟩ := (Program.lineRuns_iff reads).mp lineRuns
    exact ⟨noWord, by rw [commandIs]; decide⟩
  · obtain ⟨fixed, -, entries⟩ := program.exists_entries_toSection
    rw [entries limits]
    exact List.mem_append_left _ (List.mem_append_right _ named)

end Supervision
