import Mathlib.Data.List.Nodup
import Supervision.Proofs.Configuration.Sections

/-!
Which sections write a directive twice: none but those of programs and event listeners, and these
exactly when the settings of their line repeat one another or a directive that is there anyway.
-/

namespace Supervision

open Text Outcome

/-! Keys of sections. -/

theorem Ini.Section.keys_ofSettings_sublist (header : Text) (settings : List (Text × Option Text)) :
    (Ini.Section.ofSettings header settings).keys.Sublist (settings.map Prod.fst) := by
  induction settings with
  | nil => exact List.Sublist.slnil
  | cons setting settings ih =>
      obtain ⟨key, value⟩ := setting
      cases value with
      | none => exact ih.cons key
      | some value => exact ih.cons_cons key

/-! Settings of lines. -/

def Extras.keys (extras : Extras) : List Text :=
  extras.pairs.map Prod.fst

theorem Extras.contains_iff {extras : Extras} {key : Text} :
    extras.contains key = true ↔ key ∈ extras.keys := by
  simp [contains, keys]

/-- The directives of a program section that its line need not set. -/
def Program.fixedKeys (program : Program) : List Text :=
  ["command".toList, "process_name".toList] ++
    (program.workingDirectory.map fun _ => "directory".toList).toList ++
    ["priority".toList, "redirect_stderr".toList] ++ (program.user.map fun _ => "user".toList).toList

def Program.Distinct (program : Program) : Prop :=
  (program.fixedKeys ++ program.extras.keys).Nodup

def EventListener.fixedKeys : List Text :=
  ["command", "events", "process_name", "environment"]

def EventListener.ownKeys (listener : EventListener) : List Text :=
  listener.extras.keys.filter fun key => key != "environment".toList

def EventListener.Distinct (listener : EventListener) : Prop :=
  (EventListener.fixedKeys ++ listener.ownKeys).Nodup

instance (program : Program) : Decidable program.Distinct :=
  inferInstanceAs (Decidable (List.Nodup _))

instance (listener : EventListener) : Decidable listener.Distinct :=
  inferInstanceAs (Decidable (List.Nodup _))

theorem LogLimits.keys_sublist (limits : LogLimits) :
    (limits.settings.map Prod.fst).Sublist
      ["stdout_logfile_maxbytes".toList, "stderr_logfile_maxbytes".toList] := by
  obtain ⟨stdout, stderr⟩ := limits
  cases stdout <;> cases stderr <;> simp [settings]

theorem Program.fixedKeys_sublist (program : Program) :
    program.fixedKeys.Sublist ["command".toList, "process_name".toList, "directory".toList,
      "priority".toList, "redirect_stderr".toList, "user".toList] := by
  unfold fixedKeys
  cases program.workingDirectory <;> cases program.user <;> simp

theorem Program.exists_entries_toSection (program : Program) :
    ∃ fixed, fixed.map Prod.fst = program.fixedKeys ∧ ∀ limits : LogLimits,
      (program.toSection limits).entries = fixed ++ program.extras.pairs ++
        limits.settings.filter fun limit => !program.extras.contains limit.1 := by
  refine ⟨(Ini.Section.ofSettings ("program:".toList ++ program.name) [
      ("command", some (commandLine program.command program.arguments)),
      ("process_name", some program.name),
      ("directory", program.workingDirectory),
      ("priority", some program.priority),
      ("redirect_stderr", some (ofBool program.redirectStderr)),
      ("user", program.user)]).entries, ?_, fun _ => rfl⟩
  unfold fixedKeys
  cases program.workingDirectory <;> cases program.user <;> rfl

theorem Program.keys_toSection (program : Program) (limits : LogLimits) :
    (program.toSection limits).keys = program.fixedKeys ++ program.extras.keys ++
      (limits.settings.map Prod.fst).filter fun key => !program.extras.contains key := by
  obtain ⟨fixed, keys, entries⟩ := program.exists_entries_toSection
  rw [List.filter_map, ← keys, Ini.Section.keys, entries, List.map_append, List.map_append]
  rfl

theorem Program.nodup_keys_toSection_iff {program : Program} {limits : LogLimits} :
    (program.toSection limits).keys.Nodup ↔ program.Distinct := by
  have apart : ∀ fixed ∈ ["command".toList, "process_name".toList, "directory".toList,
      "priority".toList, "redirect_stderr".toList, "user".toList],
      ∀ limit ∈ ["stdout_logfile_maxbytes".toList, "stderr_logfile_maxbytes".toList],
        fixed ≠ limit := by
    decide
  -- The log limits repeat nothing: no fixed directive is one of them, and those the line sets are
  -- not added. What is left are the fixed directives and the settings of the line.
  rw [keys_toSection, List.nodup_append]
  constructor
  · exact fun ⟨front, _, _⟩ => front
  · intro front
    refine ⟨front, (limits.keys_sublist.nodup (by decide)).filter _, ?_⟩
    intro key inFront limit added
    obtain ⟨known, absent⟩ := List.mem_filter.mp added
    rcases List.mem_append.mp inFront with isFixed | isExtra
    · exact apart key (program.fixedKeys_sublist.subset isFixed) limit
        (limits.keys_sublist.subset known)
    · rintro rfl
      simp [Extras.contains_iff.mpr isExtra] at absent

theorem EventListener.nodup_keys_toSection_iff {listener : EventListener} {client : ControlClient} :
    (listener.toSection client).keys.Nodup ↔ listener.Distinct := by
  have own : listener.ownKeys =
      (listener.extras.pairs.filter fun pair => pair.1 != "environment".toList).map Prod.fst := by
    unfold ownKeys Extras.keys
    rw [List.filter_map]
    rfl
  rw [Ini.Section.keys, entries_toSection, List.map_append, ← own]
  rfl

namespace Configuration

variable {options : Options} {part : Part} {configuration : Configuration}

/-- What stands in the sections that no settings of a line go into. -/
def directives : List (List Text) := [
  ["childlogdir", "logfile", "logfile_maxbytes", "logfile_backups", "loglevel", "pidfile", "umask",
    "nodaemon", "nocleanup", "user", "directory", "environment"],
  ["port", "username", "password"],
  ["file", "username", "password", "chmod"],
  ["serverurl", "username", "password"],
  ["supervisor.ctl_factory"],
  ["supervisor.rpcinterface_factory"],
  ["programs", "priority"],
  ["files"]]

theorem nodup_of_mem_directives : ∀ keys ∈ directives, keys.Nodup := by
  decide

theorem Origin.keys_sublist_or {block : Ini.Section} (origin : Origin options configuration block) :
    (∃ keys ∈ directives, block.keys.Sublist keys) ∨
      (∃ program, options.Lists .program Program.reader program ∧
        block = program.toSection configuration.daemon.limits) ∨
      ∃ listener, options.Lists .eventListener EventListener.reader listener ∧
        block = listener.toSection configuration.client := by
  cases origin with
  | daemon => exact Or.inl ⟨_, by simp [directives], Ini.Section.keys_ofSettings_sublist _ _⟩
  | @server transport _ _ =>
      obtain ⟨endpoint, username, password⟩ := transport
      cases endpoint with
      | inet address =>
          exact Or.inl ⟨["port", "username", "password"], by simp [directives], List.Sublist.refl _⟩
      | unix file mode =>
          exact Or.inl ⟨["file", "username", "password", "chmod"], by simp [directives],
            List.Sublist.refl _⟩
  | client _ =>
      exact Or.inl ⟨["serverurl", "username", "password"], by simp [directives],
        List.Sublist.refl _⟩
  | controlPlugin _ _ =>
      exact Or.inl ⟨["supervisor.ctl_factory"], by simp [directives], List.Sublist.refl _⟩
  | rpcMain _ | rpcPlugin _ _ =>
      exact Or.inl ⟨["supervisor.rpcinterface_factory"], by simp [directives], List.Sublist.refl _⟩
  | program listed => exact Or.inr (Or.inl ⟨_, listed, rfl⟩)
  | listener listed => exact Or.inr (Or.inr ⟨_, listed, rfl⟩)
  | group _ => exact Or.inl ⟨["programs", "priority"], by simp [directives], List.Sublist.refl _⟩
  | included found =>
      obtain ⟨-, rfl⟩ := includeSection_eq_some_iff.mp found
      exact Or.inl ⟨["files"], by simp [directives], List.Sublist.refl _⟩

theorem Origin.of_not_nodup_keys {block : Ini.Section} (origin : Origin options configuration block)
    (twice : ¬block.keys.Nodup) :
    (∃ program, options.Lists .program Program.reader program ∧ ¬program.Distinct ∧
      block = program.toSection configuration.daemon.limits) ∨
    ∃ listener, options.Lists .eventListener EventListener.reader listener ∧
      ¬listener.Distinct ∧ block = listener.toSection configuration.client := by
  rcases origin.keys_sublist_or with
    ⟨keys, known, sublist⟩ | ⟨program, listed, rfl⟩ | ⟨listener, listed, rfl⟩
  · exact absurd (sublist.nodup (nodup_of_mem_directives keys known)) twice
  · exact Or.inl ⟨program, listed, mt Program.nodup_keys_toSection_iff.mpr twice, rfl⟩
  · exact Or.inr ⟨listener, listed, mt EventListener.nodup_keys_toSection_iff.mpr twice, rfl⟩

/-- Only a section whose line repeats a directive has one twice, and it does. -/
theorem nodup_keys_iff (generated : Configuration.ofOptions options part = .ok configuration) :
    (∀ block ∈ configuration.document.sections, ¬block.keys.Nodup →
      (∃ program, options.Lists .program Program.reader program ∧ ¬program.Distinct ∧
        block = program.toSection configuration.daemon.limits) ∨
      ∃ listener, options.Lists .eventListener EventListener.reader listener ∧
        ¬listener.Distinct ∧ block = listener.toSection configuration.client) ∧
    ((∀ block ∈ configuration.document.sections, block.keys.Nodup) ↔
      (∀ program, options.Lists .program Program.reader program → program.Distinct) ∧
        ∀ listener, options.Lists .eventListener EventListener.reader listener →
          listener.Distinct) := by
  refine ⟨fun block member => ((mem_sections_iff generated).mp member).of_not_nodup_keys, ?_, ?_⟩
  · intro once
    have present := fun block origin => once block ((mem_sections_iff generated).mpr origin)
    exact ⟨fun program listed => Program.nodup_keys_toSection_iff.mp (present _ (.program listed)),
      fun listener listed =>
        EventListener.nodup_keys_toSection_iff.mp (present _ (.listener listed))⟩
  · rintro ⟨programs, listeners⟩ block member
    by_contra twice
    rcases ((mem_sections_iff generated).mp member).of_not_nodup_keys twice with
      ⟨program, listed, repeats, -⟩ | ⟨listener, listed, repeats, -⟩
    · exact repeats (programs program listed)
    · exact repeats (listeners listener listed)

theorem nodup_keys_iff_with_settings :
    let options := Options.ofList [
      ("programs".toList, "10 web (user=www directory=/srv) run [-v]".toList),
      ("eventlisteners".toList, "watch (environment=A=1 environment=B=2) TICK_60 ./watch".toList),
      ("childstdout-logfile-maxbytes".toList, "5MB".toList)]
    ∃ configuration, Configuration.ofOptions options ⟨"/srv", "main"⟩ = .ok configuration ∧
      (∀ program, options.Lists .program Program.reader program → program.Distinct) ∧
      ∀ listener, options.Lists .eventListener EventListener.reader listener →
        listener.Distinct := by
  intro options
  obtain ⟨configuration, generated, once⟩ : ∃ configuration,
      Configuration.ofOptions options ⟨"/srv", "main"⟩ = .ok configuration ∧
        decide (∀ block ∈ configuration.document.sections, block.keys.Nodup) = true :=
    exists_eq_ok_of_any (by decide +kernel)
  exact ⟨configuration, generated, (nodup_keys_iff generated).2.mp (of_decide_eq_true once)⟩

/-- A line can set a directive twice, and its section then has it twice. -/
theorem exists_not_nodup_keys :
    let options := Options.ofList [
      ("programs".toList,
        "10 web (stdout_logfile_maxbytes=1MB stdout_logfile_maxbytes=1MB) /bin/web".toList),
      ("sections".toList, [])]
    ∃ configuration, Configuration.ofOptions options ⟨"/srv/app", "supervisor"⟩ =
        .ok configuration ∧
      ∃ block ∈ configuration.document.sections, ¬block.keys.Nodup := by
  intro options
  obtain ⟨configuration, generated, twice⟩ : ∃ configuration,
      Configuration.ofOptions options ⟨"/srv/app", "supervisor"⟩ = .ok configuration ∧
        decide (∃ block ∈ configuration.document.sections, ¬block.keys.Nodup) = true :=
    exists_eq_ok_of_any (by decide +kernel)
  exact ⟨configuration, generated, of_decide_eq_true twice⟩

end Configuration

end Supervision
