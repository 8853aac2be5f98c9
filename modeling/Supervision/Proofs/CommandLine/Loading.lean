import Supervision.Proofs.CommandLine.Failure
import Supervision.Proofs.CommandLine.Overrides
import Supervision.Proofs.Options.Table

/-!
Options files on the command line: a command works with the whole of its file, and without it the
command has not begun.
-/

namespace Supervision

open Text Outcome

namespace CommandLine

def Command.input : Command → Input
  | .render input => input
  | .generate input _ => input

variable {input : Input} {session : Session} {command : Command} {arguments : List Text}
  {disk : Disk} {failure : Failure}

theorem ending_loadOptions (path : PathText) (session : Session) :
    ending (loadOptions Session.shell.readText path) session =
      (optionsOn session.disk path, session) := by
  have read : ending (Session.shell.readText path) session =
      ((session.disk.readText path).mapError (.unreadableOptions path), session) :=
    ending_orThrow (.unreadableOptions path) (session.disk.readText path) session
  rw [loadOptions, ending_bind, read, optionsOn]
  rcases session.disk.readText path with fault | text
  · rfl
  · exact ending_orThrow (.unusableOptions path) (Options.ofToml text) session

theorem ending_load_of_error (failed : input.givenOn session.disk = .error failure) :
    ending (input.load Session.shell) session = (.error failure, session) := by
  obtain ⟨_ | path, overrides, baseDir, name⟩ := input
  · cases failed
  · have loaded := ending_loadOptions path session
    rw [show optionsOn session.disk path = .error failure from failed] at loaded
    simp only [Input.load, ending_bind, loaded]

theorem run_of_givenOn_error (parsed : parse arguments = some command)
    (failed : command.input.givenOn disk = .error failure) :
    run arguments disk = ⟨1, some failure, Session.start disk⟩ := by
  have loaded : ending (command.input.load Session.shell) (Session.start disk) =
      (.error failure, Session.start disk) := ending_load_of_error failed
  rw [run_of_parse parsed]
  cases command with
  | render input =>
      simp only [Command.input] at loaded
      simp only [Command.run, ending_bind, loaded]
  | generate input json =>
      simp only [Command.input] at loaded
      simp only [Command.run, ending_bind, loaded]

variable {document path : Text} {table : List (Text × Toml.Value)}

theorem givenOn_of_readText (named : input.optionsFile = some path)
    (text : disk.readText path = .ok document) :
    input.givenOn disk = (Options.ofToml document).mapError (.unusableOptions path) := by
  simp only [Input.givenOn, named, optionsOn, text]
  rfl

theorem holds_of_load {after : Session} {options : Options} {part : Part}
    (parsed : Toml.parse document = some table) (named : input.optionsFile = some path)
    (text : session.disk.readText path = .ok document)
    (loaded : ending (input.load Session.shell) session = (.ok (options, part), after)) :
    ∃ given : Options, given.Holds table ∧ given.overrideAll input.overrides = .ok options := by
  obtain ⟨given, found, overridden⟩ := overrides_of_load loaded
  refine ⟨given, ?_, overridden⟩
  rw [givenOn_of_readText named text] at found
  rcases taken : Options.ofToml document with cause | options
  · rw [taken] at found
    cases found
  · rw [taken] at found
    obtain rfl := Except.ok.inj found
    rw [Options.ofToml, parsed] at taken
    exact ((Options.ofTable_eq_ok_iff (Toml.nodup_keys_of_parse parsed)).mp taken).2

/-- The keys of a document become options all together or not at all: it takes values of the right
kinds throughout, and otherwise the least key with another value is complained about. A file is
loaded as its document is, and when it cannot be loaded no command does anything; whatever options a
command works on otherwise start from the whole of the file. -/
theorem document_taken_whole (parsed : Toml.parse document = some table) :
    ((∃ options, Options.ofToml document = .ok options) ↔ ∀ entry ∈ table, entry.2.Qualifies) ∧
    (∀ options, Options.ofToml document = .ok options → options.Holds table) ∧
    (∀ message, (∃ cause, Options.ofToml document = .error cause ∧ cause.message = message) ↔
      ∃ key value, Options.LeastBad table key value ∧ value.Complaint key message) ∧
    (∀ path session, session.disk.readText path = .ok document →
      ending (loadOptions Session.shell.readText path) session =
        ((Options.ofToml document).mapError (.unusableOptions path), session)) ∧
    (∀ arguments command, parse arguments = some command →
      (∀ disk, command.input.LacksOptions disk →
        ∃ failure, run arguments disk = ⟨1, some failure, Session.start disk⟩) ∧
      ∀ path disk, command.input.optionsFile = some path → disk.readText path = .ok document →
        (∀ cause, Options.ofToml document = .error cause →
          run arguments disk = ⟨1, some (.unusableOptions path cause), Session.start disk⟩) ∧
        ∀ options part after,
          ending (command.input.load Session.shell) (Session.start disk) =
            (.ok (options, part), after) →
          ∃ given : Options, given.Holds table ∧
            given.overrideAll command.input.overrides = .ok options) := by
  have distinct := Toml.nodup_keys_of_parse parsed
  have ofToml : Options.ofToml document = Options.ofTable table := by rw [Options.ofToml, parsed]
  refine ⟨?_, ?_, ?_, ?_, ?_⟩
  · rw [ofToml]
    exact Options.exists_ofTable_ok_iff
  · intro options taken
    exact ((Options.ofTable_eq_ok_iff distinct).mp (ofToml ▸ taken)).2
  · intro message
    rw [ofToml]
    exact Options.exists_ofTable_error_iff distinct
  · intro path session text
    rw [ending_loadOptions, optionsOn, text]
    rfl
  · intro arguments command asked
    refine ⟨fun disk lacking => ?_, fun path disk named text => ⟨fun cause bad => ?_, ?_⟩⟩
    · obtain ⟨failure, failed⟩ := exists_givenOn_error_iff.mpr lacking
      exact ⟨failure, run_of_givenOn_error asked failed⟩
    · refine run_of_givenOn_error asked ?_
      rw [givenOn_of_readText named text, bad]
      rfl
    · intro options part after loaded
      exact holds_of_load parsed named text loaded

/-- The least key is neither the first of the file nor the only one that is bad, and what is wrong
with it comes third in its list. -/
theorem document_taken_whole_but_for_item :
    let document : Text :=
      "name = \"w\"\n\"é\" = 1979-05-27\nplugins = [\"a\", \"b\", [], true]\n[user]\nx = 1".toList
    let message : Text := "option plugins must be a list of strings, found array".toList
    let disk : Disk := ⟨⟨[(["work".toList], .directory),
      (["work".toList, "o".toList], .file 0o600 (asString document).toUTF8)]⟩, ["work".toList]⟩
    ∃ table, Toml.parse document = some table ∧
      (∃ value, Options.LeastBad table "plugins" value ∧ value.Complaint "plugins" message) ∧
      ∃ cause, Options.ofToml document = .error cause ∧ cause.message = message ∧
        run ["generate".toList, "--options=o".toList, "--json".toList] disk =
          ⟨1, some (.unusableOptions "o" cause), Session.start disk⟩ := by
  intro document message disk
  have found : ((Toml.parse document).any fun table =>
      ((table.lookup "plugins".toList).any fun value =>
        decide (Options.valueText "plugins" value = .error (.mixedList "plugins" .array))) &&
      table.all fun entry => entry.2.kind == .string || notAfter "plugins".toList entry.1) = true := by
    decide +kernel
  obtain ⟨table, parsed, checked⟩ := (Option.any_eq_true _ _).mp found
  obtain ⟨listed, others⟩ := (Bool.and_eq_true _ _).mp checked
  obtain ⟨value, looked, failed⟩ := (Option.any_eq_true _ _).mp listed
  have complaint : value.Complaint "plugins" message :=
    Options.exists_valueText_error_iff.mp ⟨_, of_decide_eq_true failed, by decide +kernel⟩
  have least : Options.LeastBad table "plugins" value := by
    obtain ⟨before, after, equal, -⟩ := List.lookup_eq_some_iff.mp looked
    refine ⟨by simp [equal], Options.not_qualifies_of_complaint complaint, fun other member bad => ?_⟩
    rcases (Bool.or_eq_true _ _).mp (List.all_eq_true.mp others other member) with string | later
    · exact absurd (.single (by simp [eq_of_beq string])) bad
    · exact Options.notAfter_iff.mp later
  obtain ⟨-, -, told, -, runs⟩ := document_taken_whole parsed
  obtain ⟨cause, refused, same⟩ := (told message).mpr ⟨_, _, least, complaint⟩
  have read : disk.readText "o".toList = .ok document := by decide +kernel
  have asked : parse ["generate".toList, "--options=o".toList, "--json".toList] =
      some (.generate ⟨some "o".toList, [], none, none⟩ true) := by decide +kernel
  exact ⟨table, parsed, ⟨_, least, complaint⟩, cause, refused, same,
    ((runs _ _ asked).2 "o".toList disk rfl read).1 cause refused⟩

end CommandLine

end Supervision
