import Supervision.Proofs.Configuration.Directives
import Supervision.Proofs.Configuration.Environment

/-!
What becomes of the settings of a line: they are entries of the section, in the order of the line.
The environments of an event listener are joined to that of the section instead, but only the first
of them.
-/

namespace Supervision

open Text Outcome

namespace EventListener

def ownEnvironments (listener : EventListener) : List Text :=
  valuesUnder "environment" listener.extras.pairs

theorem ownEnvironment_eq_take (listener : EventListener) :
    listener.ownEnvironment =
      (listener.ownEnvironments.take 1).flatMap fun own => ',' :: own := by
  rw [ownEnvironment, Extras.get?_eq_head?_valuesUnder, ownEnvironments]
  cases valuesUnder "environment" listener.extras.pairs with
  | nil => rfl
  | cons own others => exact (List.append_nil _).symm

theorem ownEnvironment_eq_iff {listener : EventListener} :
    listener.ownEnvironment = (listener.ownEnvironments.flatMap fun own => ',' :: own) ↔
      listener.ownEnvironments.length ≤ 1 := by
  rw [ownEnvironment_eq_take]
  constructor
  · intro whole
    match listener.ownEnvironments, whole with
    | [], _ => exact Nat.zero_le 1
    | [_], _ => exact Nat.le_refl 1
    | own :: other :: others, whole =>
        have lengths := congrArg List.length whole
        simp at lengths
  · intro few
    rw [List.take_of_length_le few]

end EventListener

/-- Every setting of an accepted line is an entry of the section, in the order of the line, but for
the environments of an event listener. Of these the first is joined to the environment of the
section, and so nothing is lost exactly when there are no others. -/
theorem settings_rendered (kind : RecordKind) (number : Nat) (line : Text) :
    (∀ program, readLine Program.reader kind number line = .ok program → ∃ settings fixed,
      (∀ given, Program.LineSets line given ↔ given = settings) ∧
      fixed.map Prod.fst = program.fixedKeys ∧ ∀ limits : LogLimits,
        (program.toSection limits).entries = fixed ++ settings ++
          limits.settings.filter fun limit => (valuesUnder limit.1 settings).isEmpty) ∧
    ∀ listener, readLine EventListener.reader kind number line = .ok listener → ∃ settings,
      (∀ given, EventListener.LineSets line given ↔ given = settings) ∧
      ∀ client : ControlClient,
        (∃ fixed, fixed.map Prod.fst = EventListener.fixedKeys ∧
          (listener.toSection client).entries =
            fixed ++ settings.filter fun setting => setting.1 != "environment".toList) ∧
        valuesUnder "environment" (listener.toSection client).entries = [client.environment ++
          ((valuesUnder "environment" settings).take 1).flatMap fun own => ',' :: own] ∧
        (valuesUnder "environment" (listener.toSection client).entries = [client.environment ++
            (valuesUnder "environment" settings).flatMap fun own => ',' :: own] ↔
          (valuesUnder "environment" settings).length ≤ 1) := by
  constructor
  · intro program accepted
    obtain ⟨fixed, keys, entries⟩ := program.exists_entries_toSection
    have reads := readLine_eq_ok_iff.mp accepted
    simp only [Extras.not_contains_eq] at entries
    exact ⟨program.extras.pairs, fixed, fun given => Program.lineSets_iff reads, keys, entries⟩
  · intro listener accepted
    have reads := readLine_eq_ok_iff.mp accepted
    refine ⟨listener.extras.pairs, fun given => EventListener.lineSets_iff reads, fun client => ?_⟩
    rw [listener.valuesUnder_environment client]
    refine ⟨⟨_, rfl, listener.entries_toSection client⟩, ?_, ?_⟩
    · rw [listener.ownEnvironment_eq_take]
      rfl
    · rw [List.singleton_inj, List.append_cancel_left_eq]
      exact EventListener.ownEnvironment_eq_iff

theorem settings_rendered_repeatedly :
    let programLine : Text := "10 web (umask=1 stdout_logfile_maxbytes=1MB x= umask=2=) ./run".toList
    let listenerLine : Text := "watch (a=1 environment=A=1,B='x' =b a=2) TICK_60 ./watch".toList
    (∃ program fixed, readLine Program.reader .program 3 programLine = .ok program ∧
      (program.toSection ⟨some "5MB".toList, some "7MB".toList⟩).entries = fixed ++ [
        ("umask".toList, "1".toList), ("stdout_logfile_maxbytes".toList, "1MB".toList),
        ("umask".toList, "2=".toList), ("stderr_logfile_maxbytes".toList, "7MB".toList)]) ∧
    ∃ listener, readLine EventListener.reader .eventListener 1 listenerLine = .ok listener ∧
      ∀ client : ControlClient, valuesUnder "environment" (listener.toSection client).entries =
        [client.environment ++ ",A=1,B='x'".toList] := by
  intro programLine listenerLine
  constructor
  · obtain ⟨program, accepted, given⟩ : ∃ program,
        readLine Program.reader .program 3 programLine = .ok program ∧
          decide (program.extras.pairs = [("umask".toList, "1".toList),
            ("stdout_logfile_maxbytes".toList, "1MB".toList), ("umask".toList, "2=".toList)]) =
            true :=
      exists_eq_ok_of_any (by decide +kernel)
    obtain ⟨settings, fixed, sets, -, entries⟩ :=
      (settings_rendered .program 3 programLine).1 program accepted
    obtain rfl : program.extras.pairs = settings :=
      (sets _).mp ((Program.lineSets_iff (readLine_eq_ok_iff.mp accepted)).mpr rfl)
    refine ⟨program, fixed, accepted, ?_⟩
    rw [entries, of_decide_eq_true given, List.append_assoc]
    rfl
  · obtain ⟨listener, accepted, given⟩ : ∃ listener,
        readLine EventListener.reader .eventListener 1 listenerLine = .ok listener ∧
          decide (valuesUnder "environment" listener.extras.pairs = ["A=1,B='x'".toList]) = true :=
      exists_eq_ok_of_any (by decide +kernel)
    obtain ⟨settings, sets, rendered⟩ :=
      (settings_rendered .eventListener 1 listenerLine).2 listener accepted
    obtain rfl : listener.extras.pairs = settings :=
      (sets _).mp ((EventListener.lineSets_iff (readLine_eq_ok_iff.mp accepted)).mpr rfl)
    refine ⟨listener, accepted, fun client => ?_⟩
    obtain ⟨-, environment, -⟩ := rendered client
    rw [environment, of_decide_eq_true given]
    rfl

/-- The second environment of a line is nowhere in the document. -/
theorem exists_setting_lost :
    let line : Text := "watch (environment=A=1 environment=B=2) TICK_60 ./watch".toList
    let options := Options.ofList [("eventlisteners".toList, line), ("sections".toList, [])]
    (∃ settings, EventListener.LineSets line settings ∧
      ("environment".toList, "B=2".toList) ∈ settings) ∧
    ∃ configuration, Configuration.ofOptions options ⟨"/srv/app", "supervisor"⟩ =
        .ok configuration ∧
      ∀ block ∈ configuration.document.sections, ∀ entry ∈ block.entries,
        ¬"B=2".toList <:+: entry.2 := by
  intro line options
  constructor
  · obtain ⟨listener, accepted, given⟩ : ∃ listener,
        readLine EventListener.reader .eventListener 1 line = .ok listener ∧
          decide (("environment".toList, "B=2".toList) ∈ listener.extras.pairs) = true :=
      exists_eq_ok_of_any (by decide +kernel)
    have reads := readLine_eq_ok_iff.mp accepted
    exact ⟨_, (EventListener.lineSets_iff reads).mpr rfl, of_decide_eq_true given⟩
  · obtain ⟨configuration, generated, lost⟩ : ∃ configuration,
        Configuration.ofOptions options ⟨"/srv/app", "supervisor"⟩ = .ok configuration ∧
          decide (∀ block ∈ configuration.document.sections, ∀ entry ∈ block.entries,
            ¬"B=2".toList <:+: entry.2) = true :=
      exists_eq_ok_of_any (by decide +kernel)
    exact ⟨configuration, generated, of_decide_eq_true lost⟩

end Supervision
