import Supervision.Proofs.Configuration.Settings

/-!
Limits for the logs of programs: what the line of a program says of a log stands as it is, and the
options for all programs fill in for logs of which it says nothing. They change nothing else.
-/

namespace Supervision

open Text Outcome

/-! Limits from options. -/

def LogLimits.names : List (Text × Text) := [
  ("stdout_logfile_maxbytes", "childstdout-logfile-maxbytes"),
  ("stderr_logfile_maxbytes", "childstderr-logfile-maxbytes")]

/-- The values under a directive are the own ones if there are any, and else that of an option
unless it is missing or empty. -/
structure FilledIn (options : Options) (name : Text) (own values : List Text) : Prop where
  explicit : own ≠ [] → values = own
  filled : own = [] → ∀ size, options.get? name = some size → size ≠ [] → values = [size]
  unlimited : own = [] → (∀ size, options.get? name = some size → size = []) → values = []

theorem filledIn_nonEmpty? (options : Options) (name : Text) (own : List Text) :
    FilledIn options name own
      (own ++ if own.isEmpty then (options.nonEmpty? name).toList else []) := by
  refine ⟨fun given => ?_, fun missing size found nonempty => ?_, fun missing empty => ?_⟩
  · rw [if_neg (mt List.isEmpty_iff.mp given), List.append_nil]
  · rw [missing, Options.nonEmpty?, found]
    simp [nonempty]
  · rw [missing, Options.nonEmpty?]
    cases found : options.get? name with
    | none => rfl
    | some size =>
        rw [empty size found]
        rfl

theorem Daemon.valuesUnder_limits (options : Options) (part : Part) :
    ∀ limit ∈ LogLimits.names, valuesUnder limit.1 (Daemon.resolve options part).limits.settings =
      (options.nonEmpty? limit.2).toList := by
  have stdout : (Daemon.resolve options part).limits.stdout =
      options.nonEmpty? "childstdout-logfile-maxbytes" := rfl
  have stderr : (Daemon.resolve options part).limits.stderr =
      options.nonEmpty? "childstderr-logfile-maxbytes" := rfl
  simp only [LogLimits.names, List.forall_mem_cons, List.not_mem_nil, false_imp_iff, forall_const,
    and_true, LogLimits.settings, stdout, stderr]
  cases options.nonEmpty? "childstdout-logfile-maxbytes".toList <;>
    cases options.nonEmpty? "childstderr-logfile-maxbytes".toList <;> exact ⟨rfl, rfl⟩

theorem Program.not_mem_fixedKeys (program : Program) :
    ∀ limit ∈ LogLimits.names, limit.1 ∉ program.fixedKeys := by
  have apart : ∀ limit ∈ LogLimits.names, limit.1 ∉ ["command".toList, "process_name".toList,
      "directory".toList, "priority".toList, "redirect_stderr".toList, "user".toList] := by
    decide
  exact fun limit known isFixed => apart limit known (program.fixedKeys_sublist.subset isFixed)

theorem Program.filledIn_toSection (program : Program) (options : Options) (part : Part) :
    ∀ limit ∈ LogLimits.names, FilledIn options limit.2 (valuesUnder limit.1 program.extras.pairs)
      (valuesUnder limit.1
        (program.toSection (Daemon.resolve options part).limits).entries) := by
  intro limit known
  obtain ⟨fixed, keys, entries⟩ := program.exists_entries_toSection
  have notFixed : valuesUnder limit.1 fixed = [] := by
    rw [valuesUnder_eq_nil_iff, keys]
    exact program.not_mem_fixedKeys limit known
  rw [entries, valuesUnder_append, valuesUnder_append, notFixed, List.nil_append,
    valuesUnder_filter limit.1 fun key => !program.extras.contains key, Extras.not_contains_eq,
    Daemon.valuesUnder_limits options part limit known]
  exact filledIn_nonEmpty? options limit.2 _

/-! The same without the options. -/

/-- The second section is the first with limits for logs at its end, and only that of a program may
have some. -/
structure LimitsAdded (plain block : Ini.Section) : Prop where
  header : block.header = plain.header
  entries : ∃ added, block.entries = plain.entries ++ added ∧
    ∀ entry ∈ added, entry.1 ∈ LogLimits.names.map Prod.fst
  elsewhere : ¬"program:".toList <+: plain.header → block = plain

theorem LimitsAdded.refl (block : Ini.Section) : LimitsAdded block block :=
  ⟨rfl, ⟨[], (List.append_nil _).symm, List.forall_mem_nil _⟩, fun _ => rfl⟩

theorem Program.limitsAdded_toSection (program : Program) (limits : LogLimits) :
    LimitsAdded (program.toSection ⟨none, none⟩) (program.toSection limits) := by
  obtain ⟨fixed, -, entries⟩ := program.exists_entries_toSection
  have plain : (program.toSection ⟨none, none⟩).entries = fixed ++ program.extras.pairs := by
    rw [entries]
    exact List.append_nil _
  refine ⟨rfl, ⟨_, (entries limits).trans (by rw [plain]), ?_⟩,
    fun elsewhere => absurd (List.prefix_append _ _) elsewhere⟩
  intro entry added
  exact limits.keys_sublist.subset (List.mem_map_of_mem (List.mem_of_mem_filter added))

theorem Daemon.resolve_without_limits {options other : Options}
    (missing : ∀ limit ∈ LogLimits.names, other.get? limit.2 = none)
    (same : ∀ name, name ∉ LogLimits.names.map Prod.snd → other.get? name = options.get? name)
    (part : Part) :
    Daemon.resolve other part = { Daemon.resolve options part with limits := ⟨none, none⟩ } := by
  have agree : Options.AgreeOn ["childlogdir", "logfile", "logfile-maxbytes", "logfile-backups",
      "loglevel", "pidfile", "umask", "nodaemon", "nocleanup", "supervisord-user",
      "supervisord-directory", "supervisord-environment", "env-path"] options other :=
    .of_apart same (by decide)
  have stdout := missing ("stdout_logfile_maxbytes", "childstdout-logfile-maxbytes") (by decide)
  have stderr := missing ("stderr_logfile_maxbytes", "childstderr-logfile-maxbytes") (by decide)
  simp (disch := decide) only [Daemon.resolve, agree.getD, agree.get?, agree.nonEmpty?]
  simp only [Options.nonEmpty?, stdout, stderr, Option.filter_none]

/-! Program sections. -/

namespace Ini.Section

def isProgram (block : Ini.Section) : Bool :=
  "program:".toList.isPrefixOf block.header

theorem filter_isProgram_eq_nil {blocks : List Ini.Section}
    (others : ∀ block ∈ blocks, block.isProgram = false) : blocks.filter isProgram = [] := by
  rw [List.filter_eq_nil_iff]
  intro block inside
  rw [others block inside]
  exact Bool.false_ne_true

theorem filter_isProgram_ite {blocks : List Ini.Section} (selected : Bool)
    (others : ∀ block ∈ blocks, block.isProgram = false) :
    (if selected then blocks else []).filter isProgram = [] := by
  cases selected with
  | false => rfl
  | true => exact filter_isProgram_eq_nil others

end Ini.Section

namespace Configuration

open Ini.Section

theorem filter_isProgram_sections (selection : Selection) (daemon : Daemon) (transport : Transport)
    (client : ControlClient) (records : Records) :
    (sections selection daemon transport client records).filter isProgram =
      records.programs.map fun program => program.toSection daemon.limits := by
  have daemonApart : ¬daemon.daemonSection.isProgram = true := Bool.false_ne_true
  have http : (httpSections selection transport).filter isProgram = [] := by
    refine filter_isProgram_ite selection.http fun block inside => ?_
    obtain rfl := List.mem_singleton.mp inside
    obtain ⟨endpoint, username, password⟩ := transport
    cases endpoint <;> rfl
  have control : (controlSections selection client records.controlPlugins).filter isProgram = [] :=
    filter_isProgram_ite selection.control
      (List.forall_mem_cons.mpr ⟨rfl, List.forall_mem_map.mpr fun _ _ => rfl⟩)
  have rpc : (rpcSections selection records.rpcPlugins).filter isProgram = [] :=
    filter_isProgram_ite selection.rpc (List.forall_mem_map.mpr fun _ _ => rfl)
  have programs : (records.programs.map fun program => program.toSection daemon.limits).filter
      isProgram = records.programs.map fun program => program.toSection daemon.limits :=
    List.filter_eq_self.mpr (List.forall_mem_map.mpr fun _ _ => rfl)
  have listeners : (records.listeners.map fun listener => listener.toSection client).filter
      isProgram = [] :=
    filter_isProgram_eq_nil (List.forall_mem_map.mpr fun _ _ => rfl)
  have groups : (records.groups.map Group.toSection).filter isProgram = [] :=
    filter_isProgram_eq_nil (List.forall_mem_map.mpr fun _ _ => rfl)
  have included : (includeSection records.included).toList.filter isProgram = [] := by
    refine filter_isProgram_eq_nil fun block inside => ?_
    obtain ⟨-, rfl⟩ := includeSection_eq_some_iff.mp (Option.mem_toList.mp inside)
    rfl
  simp only [sections, List.filter_cons_of_neg daemonApart, List.filter_append, http, control, rpc,
    programs, listeners, groups, included, List.nil_append, List.append_nil]

theorem limitsAdded_sections (selection : Selection) (daemon : Daemon) (transport : Transport)
    (client : ControlClient) (records : Records) :
    List.Forall₂ LimitsAdded
      (sections selection { daemon with limits := ⟨none, none⟩ } transport client records)
      (sections selection daemon transport client records) :=
  forall₂_sections .refl (.refl _) (.refl _) (.refl _)
    (fun program => program.limitsAdded_toSection daemon.limits) (fun _ => .refl _) selection
    records

variable {options : Options} {part : Part} {configuration : Configuration}

theorem ofOptions_without_limits {other : Options}
    (generated : Configuration.ofOptions options part = .ok configuration)
    (missing : ∀ limit ∈ LogLimits.names, other.get? limit.2 = none)
    (same : ∀ name, name ∉ LogLimits.names.map Prod.snd → other.get? name = options.get? name) :
    ∃ plain, Configuration.ofOptions other part = .ok plain ∧
      List.Forall₂ LimitsAdded plain.document.sections configuration.document.sections := by
  obtain ⟨transport, records, resolved, read, rfl⟩ := ofOptions_eq_ok_iff.mp generated
  have selection : Selection.resolve other = Selection.resolve options :=
    Selection.resolve_congr (.of_apart same (by decide))
  have sameTransport : Transport.resolve other = Transport.resolve options := by
    refine Transport.resolve_congr (.of_apart same (by decide)) fun kind _ => ?_
    cases kind <;> exact .of_apart same (by decide)
  have client : ControlClient.resolve other transport = ControlClient.resolve options transport :=
    ControlClient.resolve_congr (.of_apart same (by decide)) transport
  have sameRecords := Records.read_congr (.of_apart same (by decide)) (Selection.resolve options)
  refine ⟨_, ofOptions_eq_ok_iff.mpr ⟨transport, records, sameTransport.trans resolved,
    by rw [selection, sameRecords, read], rfl⟩, ?_⟩
  rw [selection, client, Daemon.resolve_without_limits missing same part]
  exact limitsAdded_sections _ _ _ _ _

/-- The program sections are those of the program lines, in order, and for each log their limits
are the ones of the line, else that of the option. Without these two options the same document is
made but for the limits. -/
theorem log_limits_filled_in
    (generated : Configuration.ofOptions options part = .ok configuration) :
    List.Forall₂ (fun line block => ∃ settings,
        (∀ given, Program.LineSets line given ↔ given = settings) ∧
        ∀ limit ∈ LogLimits.names, FilledIn options limit.2 (valuesUnder limit.1 settings)
          (valuesUnder limit.1 block.entries))
      (recordLines (options.block "programs"))
      (configuration.document.sections.filter Ini.Section.isProgram) ∧
    ∀ other : Options, (∀ limit ∈ LogLimits.names, other.get? limit.2 = none) →
      (∀ name, name ∉ LogLimits.names.map Prod.snd → other.get? name = options.get? name) →
        ∃ plain, Configuration.ofOptions other part = .ok plain ∧
          List.Forall₂ LimitsAdded plain.document.sections configuration.document.sections := by
  refine ⟨?_, fun other missing same => ofOptions_without_limits generated missing same⟩
  obtain ⟨transport, records, resolved, read, rfl⟩ := ofOptions_eq_ok_iff.mp generated
  obtain ⟨-, -, programs, -⟩ := Records.read_eq_ok_iff.mp read
  rw [filter_isProgram_sections, List.forall₂_map_right_iff]
  exact programs.imp fun line program reads => ⟨program.extras.pairs,
    fun given => Program.lineSets_iff reads, program.filledIn_toSection options part⟩

theorem log_limits_filled_in_beside_own :
    let line : Text :=
      "10 web (stdout_logfile_maxbytes=1MB a=b stdout_logfile_maxbytes=2MB) ./web".toList
    let others := Options.ofList [("programs".toList, line), ("port".toList, "80".toList)]
    let options := (others.insert "childstdout-logfile-maxbytes" "5MB").insert
      "childstderr-logfile-maxbytes" "7MB"
    ∃ configuration block plain, Configuration.ofOptions options ⟨"/srv", "main"⟩ =
        .ok configuration ∧
      configuration.document.sections.filter Ini.Section.isProgram = [block] ∧
      valuesUnder "stdout_logfile_maxbytes" block.entries = ["1MB".toList, "2MB".toList] ∧
      valuesUnder "stderr_logfile_maxbytes" block.entries = ["7MB".toList] ∧
      Configuration.ofOptions others ⟨"/srv", "main"⟩ = .ok plain ∧
      List.Forall₂ LimitsAdded plain.document.sections configuration.document.sections := by
  intro line others options
  obtain ⟨configuration, generated⟩ :
      ∃ configuration, Configuration.ofOptions options ⟨"/srv", "main"⟩ = .ok configuration :=
    exists_eq_ok_of_isOk (by decide +kernel)
  obtain ⟨program, accepted, given⟩ : ∃ program,
      readLine Program.reader .program 1 line = .ok program ∧
        decide (valuesUnder "stdout_logfile_maxbytes" program.extras.pairs =
            ["1MB".toList, "2MB".toList] ∧
          valuesUnder "stderr_logfile_maxbytes" program.extras.pairs = []) = true :=
    exists_eq_ok_of_any (by decide +kernel)
  obtain ⟨own, missing⟩ := of_decide_eq_true given
  have only : recordLines (options.block "programs") = [line] := by decide +kernel
  have same : ∀ (before : Options) (name : Text), name ∉ LogLimits.names.map Prod.snd →
      before.get? name = ((before.insert "childstdout-logfile-maxbytes" "5MB").insert
        "childstderr-logfile-maxbytes" "7MB").get? name := by
    intro before name apart
    have notStdout : name ≠ "childstdout-logfile-maxbytes".toList := by
      rintro rfl
      exact apart (by decide)
    have notStderr : name ≠ "childstderr-logfile-maxbytes".toList := by
      rintro rfl
      exact apart (by decide)
    rw [Options.get?_insert, if_neg notStderr, Options.get?_insert, if_neg notStdout]
  obtain ⟨limited, bare⟩ := log_limits_filled_in generated
  rw [only, List.forall₂_cons_left_iff] at limited
  obtain ⟨block, _, ⟨settings, sets, filled⟩, noOthers, found⟩ := limited
  obtain rfl := List.forall₂_nil_left_iff.mp noOthers
  obtain rfl : program.extras.pairs = settings :=
    (sets _).mp ((Program.lineSets_iff (readLine_eq_ok_iff.mp accepted)).mpr rfl)
  have stdout := filled ("stdout_logfile_maxbytes", "childstdout-logfile-maxbytes") (by decide)
  have stderr := filled ("stderr_logfile_maxbytes", "childstderr-logfile-maxbytes") (by decide)
  obtain ⟨plain, made, added⟩ := bare others (by decide +kernel) (same others)
  exact ⟨configuration, block, plain, generated, found,
    (stdout.explicit (by rw [own]; exact List.cons_ne_nil _ _)).trans own,
    stderr.filled missing "7MB".toList (by decide +kernel) (by decide), made, added⟩

end Configuration

end Supervision
