import Supervision.Proofs.Configuration.Sections
import Supervision.Proofs.Configuration.SingleLine
import Supervision.Proofs.Path.Dirname
import Supervision.Proofs.Record.Fields
import Supervision.Proofs.Text.Lines

/-!
The text of a configuration: every section of it can be taken apart again, whatever its lines hold,
so that the text determines the document.
-/

namespace Supervision

open Text Outcome Ini

/-! Texts made of words and of what stands on one line. -/

theorem Text.Word.plainKey {word : Text} (ink : Word word) : ' ' ∉ word ∧ '\n' ∉ word :=
  ⟨ink.blank_not_mem (by decide), ink.blank_not_mem (by decide)⟩

theorem Text.Word.newline_not_mem_append {heading word : Text} (ink : Word word)
    (fixed : '\n' ∉ heading) : '\n' ∉ heading ++ word := by
  rw [List.mem_append, not_or]
  exact ⟨fixed, ink.plainKey.2⟩

theorem not_mem_joinWith {separator : Text} {pieces : List Text} {c : Char} (between : c ∉ separator)
    (inside : ∀ piece ∈ pieces, c ∉ piece) : c ∉ joinWith separator pieces := by
  unfold joinWith
  induction pieces with
  | nil => exact List.not_mem_nil
  | cons first pieces ih =>
      obtain ⟨here, later⟩ := List.forall_mem_cons.mp inside
      cases pieces with
      | nil => rwa [List.intercalate_singleton]
      | cons second pieces =>
          rw [List.intercalate_cons_cons, List.mem_append, List.mem_append]
          rintro ((found | found) | found)
          · exact here found
          · exact between found
          · exact ih later found

theorem newline_not_mem_commandLine {line command : Text} {arguments : Option Text}
    (single : '\n' ∉ line) (ink : Word command) (inside : ∀ content ∈ arguments, content ⊆ line) :
    '\n' ∉ commandLine command arguments := by
  cases arguments with
  | none => exact ink.plainKey.2
  | some content =>
      have inContent : '\n' ∉ content := fun member => single (inside content rfl member)
      simp [commandLine, ink.plainKey.2, inContent]

theorem Extras.Words.plainEntry {extras : Extras} (words : extras.Words) :
    ∀ pair ∈ extras.pairs, PlainEntry pair := by
  intro pair member
  obtain ⟨key, value⟩ := words pair member
  exact Ini.plainEntry key.plainKey value.plainKey.2

/-! Sections of records. -/

theorem Program.Held.newline_not_mem_workingDirectory {line : Text} {program : Program}
    (held : program.Held line) : ∀ directory ∈ program.workingDirectory, '\n' ∉ directory := by
  intro directory found
  unfold Program.workingDirectory at found
  split at found
  case h_1 own given =>
    obtain rfl := Option.some.inj found
    exact (held.directory own given).plainKey.2
  case h_2 =>
    obtain rfl := Option.some.inj (Option.filter_eq_some_iff.mp found).1
    exact fun member => held.command.plainKey.2 ((Path.dirname_prefix _).subset member)

theorem Program.Held.plain_toSection {line : Text} {program : Program} {limits : LogLimits}
    (held : program.Held line) (single : '\n' ∉ line)
    (limited : ∀ setting ∈ limits.settings, PlainEntry setting) :
    (program.toSection limits).Plain := by
  have header : '\n' ∉ "program:".toList ++ program.name :=
    held.name.newline_not_mem_append (by decide)
  have fixed : (Ini.Section.ofSettings ("program:".toList ++ program.name) [
      ("command", some (commandLine program.command program.arguments)),
      ("process_name", some program.name),
      ("directory", program.workingDirectory),
      ("priority", some program.priority),
      ("redirect_stderr", some (ofBool program.redirectStderr)),
      ("user", program.user)]).Plain := by
    refine Section.plain_ofSettings header ?_
    simp only [List.forall_mem_cons]
    exact ⟨plain_some (by decide) (newline_not_mem_commandLine single held.command held.arguments),
      plain_some (by decide) held.name.plainKey.2,
      plain_optional (by decide) held.newline_not_mem_workingDirectory,
      plain_some (by decide) held.priority.plainKey.2,
      plain_some (by decide) (by cases program.redirectStderr <;> decide),
      plain_optional (by decide) fun user given => (held.user user given).plainKey.2, by simp⟩
  refine ⟨header, ?_⟩
  intro entry member
  rcases List.mem_append.mp member with early | late
  · rcases List.mem_append.mp early with own | extra
    · exact fixed.entries entry own
    · exact held.extras.plainEntry entry extra
  · exact limited entry (List.mem_filter.mp late).1

theorem Extras.Words.word_of_get? {extras : Extras} (words : extras.Words) {key value : Text}
    (found : extras.get? key = some value) : Word value := by
  obtain ⟨before, after, pairs, -⟩ := List.lookup_eq_some_iff.mp found
  exact (words (key, value) (by simp [pairs])).2

theorem EventListener.newline_not_mem_environment {listener : EventListener}
    {client : ControlClient} (extras : listener.extras.Words) (single : client.SingleLine) :
    '\n' ∉ listener.environment client := by
  have injected : '\n' ∉ "SUPERVISOR_USERNAME='".toList ++ client.username ++
      "',SUPERVISOR_PASSWORD='".toList ++ client.password ++
      "',SUPERVISOR_SERVER_URL='".toList ++ client.serverUrl ++ ['\''] := by
    simp [single.username, single.password, single.serverUrl]
  unfold EventListener.environment
  split
  case h_1 own given =>
    rw [List.mem_append, List.mem_cons, not_or, not_or]
    exact ⟨injected, by decide, (extras.word_of_get? given).plainKey.2⟩
  case h_2 => exact injected

theorem EventListener.Held.plain_toSection {line : Text} {listener : EventListener}
    {client : ControlClient} (held : listener.Held line) (single : '\n' ∉ line)
    (reached : client.SingleLine) : (listener.toSection client).Plain := by
  have fixed : ∀ entry ∈ ([
      ("command", commandLine listener.command listener.arguments),
      ("events", listener.events),
      ("process_name", listener.name),
      ("environment", listener.environment client)] : List (Text × Text)), PlainEntry entry := by
    simp only [List.forall_mem_cons]
    exact ⟨plainEntry (by decide) (newline_not_mem_commandLine single held.command held.arguments),
      plainEntry (by decide) held.events.plainKey.2, plainEntry (by decide) held.name.plainKey.2,
      plainEntry (by decide) (listener.newline_not_mem_environment held.extras reached), by simp⟩
  refine Section.plain_mk (held.name.newline_not_mem_append (by decide)) ?_
  intro entry member
  rcases List.mem_append.mp member with own | extra
  · exact fixed entry own
  · exact held.extras.plainEntry entry (List.mem_filter.mp extra).1

theorem Group.Held.plain_toSection {group : Group} (held : group.Held) : group.toSection.Plain := by
  have members : '\n' ∉ joinWith [','] group.members :=
    not_mem_joinWith (by decide) fun member inside => (held.members member inside).plainKey.2
  refine Section.plain_mk (held.name.newline_not_mem_append (by decide)) ?_
  simp only [List.forall_mem_cons]
  exact ⟨plainEntry (by decide) members, plainEntry (by decide) held.priority.plainKey.2, by simp⟩

theorem Plugin.plain_controlSection {plugin : Plugin} (name : Word plugin.name)
    (callable : Word plugin.callable) : plugin.controlSection.Plain :=
  Section.plain_single (name.newline_not_mem_append (by decide)) (by decide) callable.plainKey.2

theorem Plugin.plain_rpcSection {plugin : Plugin} (name : Word plugin.name)
    (callable : Word plugin.callable) : plugin.rpcSection.Plain :=
  Section.plain_single (name.newline_not_mem_append (by decide)) (by decide) callable.plainKey.2

theorem LogLimits.plain_settings {limits : LogLimits} (stdout : ∀ size ∈ limits.stdout, '\n' ∉ size)
    (stderr : ∀ size ∈ limits.stderr, '\n' ∉ size) :
    ∀ setting ∈ limits.settings, PlainEntry setting := by
  intro setting member
  rcases List.mem_append.mp member with first | second
  · obtain ⟨size, given, rfl⟩ := Option.map_eq_some_iff.mp (Option.mem_toList.mp first)
    exact plainEntry (by decide) (stdout size given)
  · obtain ⟨size, given, rfl⟩ := Option.map_eq_some_iff.mp (Option.mem_toList.mp second)
    exact plainEntry (by decide) (stderr size given)

theorem newline_not_mem_of_mem_recordLines {block line : Text} (member : line ∈ recordLines block) :
    '\n' ∉ line :=
  newline_not_mem_of_mem_lines (List.mem_filter.mp member).1

theorem Options.newline_not_mem_of_mem_blockLines {options : Options} {key line : Text}
    (member : line ∈ options.blockLines key) : '\n' ∉ line := by
  obtain ⟨written, inside, rfl⟩ := List.mem_map.mp (List.mem_filter.mp member).1
  exact fun newline => newline_not_mem_of_mem_lines inside (mem_of_mem_trim newline)

/-! The whole document. -/

namespace Configuration

theorem plain_sections {options : Options} {part : Part} {configuration : Configuration}
    (generated : Configuration.ofOptions options part = .ok configuration)
    (single : options.SingleLine) (base : .char '\n' ∉ part.baseDir) :
    ∀ block ∈ configuration.document.sections, block.Plain := by
  intro block inside
  have origin := (mem_sections_iff generated).mp inside
  obtain ⟨transport, records, resolved, -, rfl⟩ := Configuration.ofOptions_eq_ok_iff.mp generated
  have client := ControlClient.singleLine_resolve single
    (Transport.singleLine_of_resolve single resolved)
  have limited : ∀ setting ∈ (Daemon.resolve options part).limits.settings, PlainEntry setting :=
    LogLimits.plain_settings (single.nonEmpty? (by decide)) (single.nonEmpty? (by decide))
  cases origin with
  | daemon => exact Daemon.plain_daemonSection single base
  | server _ resolved => exact (Transport.singleLine_of_resolve single resolved).plain_httpSection
  | client _ => exact client.plain_clientSection
  | @controlPlugin plugin _ listed =>
      obtain ⟨line, -, reads⟩ := listed
      obtain ⟨name, callable⟩ := Plugin.words_of_reads reads
      exact plugin.plain_controlSection name callable
  | rpcMain _ => exact Plugin.main.plain_rpcSection (by decide) (by decide)
  | @rpcPlugin plugin _ listed =>
      obtain ⟨line, -, reads⟩ := listed
      obtain ⟨name, callable⟩ := Plugin.words_of_reads reads
      exact plugin.plain_rpcSection name callable
  | program listed =>
      obtain ⟨line, member, reads⟩ := listed
      exact (Program.held_of_reads reads).plain_toSection
        (newline_not_mem_of_mem_recordLines member) limited
  | listener listed =>
      obtain ⟨line, member, reads⟩ := listed
      exact (EventListener.held_of_reads reads).plain_toSection
        (newline_not_mem_of_mem_recordLines member) client
  | group listed =>
      obtain ⟨line, -, reads⟩ := listed
      exact (Group.held_of_reads reads).plain_toSection
  | included found =>
      obtain ⟨-, rfl⟩ := includeSection_eq_some_iff.mp found
      exact Section.plain_single (by decide) (by decide)
        (not_mem_joinWith (by decide) fun _ => Options.newline_not_mem_of_mem_blockLines)

theorem sections_ne_nil {options : Options} {part : Part} {configuration : Configuration}
    (generated : Configuration.ofOptions options part = .ok configuration) :
    configuration.document.sections ≠ [] := by
  obtain ⟨transport, records, -, -, rfl⟩ := Configuration.ofOptions_eq_ok_iff.mp generated
  exact List.cons_ne_nil _ _

/-- When no option but those of several lines has a line feed, the document is read back from the
text of the configuration. One blank line stands between two sections, the text ends in one line
feed, and no other document has this text. -/
theorem document_of_text {options : Options} {part : Part} {configuration : Configuration}
    (generated : Configuration.ofOptions options part = .ok configuration)
    (single : options.SingleLine) (base : .char '\n' ∉ part.baseDir) :
    Ini.Document.read configuration.text = some configuration.document ∧
    (endedLines configuration.text).countP allBlank = configuration.document.sections.length - 1 ∧
    (∃ front, configuration.text = front ++ ['\n'] ∧ front.getLast? ≠ some '\n') ∧
    ∀ other otherPart second, Configuration.ofOptions other otherPart = .ok second →
      other.SingleLine → .char '\n' ∉ otherPart.baseDir → second.text = configuration.text →
      second.document = configuration.document := by
  have plain := plain_sections generated single base
  have nonempty := sections_ne_nil generated
  have read := Document.read_text plain nonempty
  refine ⟨read, ?_, Document.exists_text_eq_concat plain nonempty, ?_⟩
  · rw [Configuration.text, Document.endedLines_text plain, Document.countP_allBlank_lines]
  · intro other otherPart second generatedSecond singleSecond baseSecond same
    have readSecond := Document.read_text
      (plain_sections generatedSecond singleSecond baseSecond) (sections_ne_nil generatedSecond)
    change second.document.text = configuration.document.text at same
    rw [same, read] at readSecond
    exact (Option.some.inj readSecond).symm

theorem document_of_text_with_arguments :
    let options := Options.ofList [
      ("password".toList, []),
      ("programs".toList, "10 web (user=www) ./run [-v  --port 80]\n\n20 worker ./work".toList)]
    ∃ configuration, Configuration.ofOptions options ⟨"/srv", "main"⟩ = .ok configuration ∧
      Ini.Document.read configuration.text = some configuration.document := by
  intro options
  have single : options.SingleLine := Options.SingleLine.of_entries (by decide +kernel)
  obtain ⟨configuration, generated⟩ :
      ∃ configuration, Configuration.ofOptions options ⟨"/srv", "main"⟩ = .ok configuration :=
    exists_eq_ok_of_isOk (by decide +kernel)
  exact ⟨configuration, generated, (document_of_text generated single (by decide)).1⟩

end Configuration

end Supervision
