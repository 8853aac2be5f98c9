import Supervision.Proofs.CommandLine.Effects
import Supervision.Proofs.Deployment.Report
import Supervision.Proofs.Options.Overrides

/-!
Runs of the command line that fail. Unless the configuration is complete nothing is touched, and a
run that fails later on has made directories at most, but for one that fails at its report.
-/

namespace Supervision

open Text Outcome

namespace CommandLine

variable {input : Input} {disk : Disk} {arguments : List Text}

def Input.LacksOptions (input : Input) (disk : Disk) : Prop :=
  ∃ path, input.optionsFile = some path ∧
    ¬∃ text options, disk.readText path = .ok text ∧ Options.ofToml text = .ok options

/-! What is read -/

theorem exists_givenOn_error_iff :
    (∃ failure, input.givenOn disk = .error failure) ↔ input.LacksOptions disk := by
  rcases file : input.optionsFile with _ | path
  · simp [Input.givenOn, Input.LacksOptions, file]
  · simp only [Input.givenOn, Input.LacksOptions, file, optionsOn, Option.some.injEq,
      exists_eq_left']
    rcases disk.readText path with fault | text
    · simp [bind, Except.bind, Except.mapError]
    · rcases made : Options.ofToml text with cause | options <;>
        simp [bind, Except.bind, Except.mapError, made]

theorem exists_readOn_error_iff :
    (∃ failure, input.readOn disk = .error failure) ↔
      input.LacksOptions disk ∨ ∃ raw ∈ input.overrides, BadOverride raw := by
  rw [← exists_givenOn_error_iff, Input.readOn]
  rcases input.givenOn disk with failure | given
  · simp [bind, Except.bind]
  · rw [← Options.exists_overrideAll_error_iff given]
    rcases changed : given.overrideAll input.overrides with cause | options <;>
      simp [bind, Except.bind, Except.mapError, pure, Except.pure, changed]

theorem exists_configurationOn_error_iff :
    (∃ failure, input.configurationOn disk = .error failure) ↔
      input.LacksOptions disk ∨ (∃ raw ∈ input.overrides, BadOverride raw) ∨
        ∃ options part cause, input.readOn disk = .ok (options, part) ∧
          Configuration.ofOptions options part = .error cause := by
  rw [← or_assoc, ← exists_readOn_error_iff, configurationOn_eq]
  rcases input.readOn disk with failure | ⟨options, part⟩
  · simp
  · rcases ofOptions : Configuration.ofOptions options part with cause | configuration <;>
      simp [Except.mapError, ofOptions]

/-! Reports -/

/-- The path of the document is made from a working directory whose own path is no text. -/
structure Input.PlacesOffText (input : Input) (options : Options) (disk : Disk) : Prop where
  base : input.baseDir = none
  path : options.get? "supervisord-conf" = none
  name : (input.name.getD "supervisor").head? ≠ some '/'
  here : ∃ name ∈ disk.here, ¬PathText.IsText name

theorem isText_baseDir_partOn_iff :
    PathText.IsText (input.partOn disk).baseDir ↔
      input.baseDir ≠ none ∨ ∀ name ∈ disk.here, PathText.IsText name := by
  rcases given : input.baseDir with _ | directory
  · simp [Input.partOn, given, Disk.isText_workingDirectory_iff]
  · simp [Input.partOn, given, PathText.isText_ofText]

theorem placesOffText_iff {options : Options} :
    input.PlacesOffText options disk ↔
      ¬PathText.IsText ((input.partOn disk).configPath options) := by
  rw [Part.isText_configPath_iff, isText_baseDir_partOn_iff]
  push Not
  constructor
  · rintro ⟨base, path, name, here⟩
    exact ⟨Option.eq_none_iff_forall_ne_some.mp path, name, base, here⟩
  · rintro ⟨path, name, base, here⟩
    exact ⟨base, Option.eq_none_iff_forall_ne_some.mpr path, name, here⟩

theorem part_of_readOn {options : Options} {part : Part}
    (read : input.readOn disk = .ok (options, part)) : part = input.partOn disk := by
  obtain ⟨given, -, read⟩ := bind_eq_ok_iff.mp read
  obtain ⟨overridden, -, read⟩ := bind_eq_ok_iff.mp read
  exact (Prod.mk.inj (pure_eq_ok_iff.mp read)).2.symm

theorem reportText_eq_none_iff {options : Options} {part : Part} {configuration : Configuration}
    {json : Bool} (read : input.readOn disk = .ok (options, part))
    (generated : Configuration.ofOptions options part = .ok configuration) :
    reportText (configuration.report []) json = none ↔
      json = true ∧ input.PlacesOffText options disk := by
  obtain rfl := part_of_readOn read
  have path : configuration.path = (input.partOn disk).configPath options := by
    obtain ⟨transport, records, -, -, rfl⟩ := Configuration.ofOptions_eq_ok_iff.mp generated
    rfl
  rw [placesOffText_iff, ← path, ← Configuration.exists_json_report_iff, reportText]
  cases json with
  | true => simp [Option.eq_none_iff_forall_ne_some]
  | false => simp

theorem mapError_ne_reportNotText {ε α : Type} {result : Except ε α} {failure : ε → Failure}
    (other : ∀ cause, failure cause ≠ .reportNotText) :
    result.mapError failure ≠ .error .reportNotText := by
  cases result with
  | error cause => exact fun same => other cause (Except.error.inj same)
  | ok value =>
      intro failed
      cases failed

theorem givenOn_ne_reportNotText : input.givenOn disk ≠ .error .reportNotText := by
  intro failed
  rcases file : input.optionsFile with _ | path
  · simp [Input.givenOn, file] at failed
  · simp only [Input.givenOn, file, optionsOn] at failed
    rcases bind_eq_error_iff.mp failed with failed | ⟨text, -, failed⟩
    · exact mapError_ne_reportNotText (by simp) failed
    · exact mapError_ne_reportNotText (by simp) failed

theorem configurationOn_ne_reportNotText :
    input.configurationOn disk ≠ .error .reportNotText := by
  intro failed
  rcases bind_eq_error_iff.mp failed with failed | ⟨found, -, failed⟩
  · rcases bind_eq_error_iff.mp failed with failed | ⟨options, -, failed⟩
    · exact givenOn_ne_reportNotText failed
    · rcases bind_eq_error_iff.mp failed with failed | ⟨changed, -, failed⟩
      · exact mapError_ne_reportNotText (by simp) failed
      · cases failed
  · exact mapError_ne_reportNotText (by simp) failed

theorem ensureAll_ne_reportNotText (paths : List PathText) (disk : Disk) :
    (Disk.ensureAll paths disk).1 ≠ .error .reportNotText := by
  induction paths generalizing disk with
  | nil => simp [Disk.ensureAll]
  | cons path paths ih =>
      rw [Disk.ensureAll]
      rcases disk.ensureDirectory path with ⟨_ | fault, made⟩
      · exact ih made
      · simp

theorem writeFailure_ne_reportNotText (fault : Disk.WriteFault) :
    Session.writeFailure fault ≠ .reportNotText := by
  cases fault <;> simp [Session.writeFailure]

theorem placeOn_ne_reportNotText {configuration : Configuration} {after : Disk} :
    placeOn configuration disk ≠ (.error .reportNotText, after) := by
  intro failed
  rw [placeOn, Disk.placeFile] at failed
  rcases ensured : Disk.ensureAll configuration.directories disk with ⟨failure | _, ready⟩
  · simp only [ensured, Prod.mk.injEq] at failed
    exact ensureAll_ne_reportNotText _ _ ((congrArg Prod.fst ensured).trans failed.1)
  · rcases replaced : ready.replaceFile configuration.path configuration.text with ⟨_ | fault, held⟩
    · simp [ensured, replaced] at failed
    · simp only [ensured, replaced, Prod.mk.injEq, Except.error.injEq] at failed
      exact writeFailure_ne_reportNotText fault failed.1

/-! Runs that fail -/

theorem disk_run_render (renders : parse arguments = some (.render input)) (disk : Disk) :
    (run arguments disk).session.disk = disk := by
  obtain ⟨notices, ran⟩ := run_render renders disk
  rw [ran]
  rcases input.configurationOn disk with failure | configuration
  · rfl
  · rfl

theorem grows_run_generate {json : Bool}
    (generates : parse arguments = some (.generate input json))
    (failed : (run arguments disk).code = 1)
    (early : (run arguments disk).failure ≠ some .reportNotText) :
    disk.Grows (run arguments disk).session.disk := by
  have ends := generateEnds generates disk
  generalize run arguments disk = ended at ends failed early ⊢
  cases ends with
  | unconfigured => exact .refl disk
  | unplaced _ placed => exact Disk.grows_of_placeFile_error placed
  | unreported => exact absurd rfl early
  | reported => cases failed

theorem grows_run (arguments : List Text) (disk : Disk) (failed : (run arguments disk).code = 1)
    (early : (run arguments disk).failure ≠ some .reportNotText) :
    disk.Grows (run arguments disk).session.disk := by
  rcases parsed : parse arguments with _ | input | ⟨input, json⟩
  · have ran : run arguments disk = ⟨2, none, Session.start disk⟩ := by rw [run, parsed]
    rw [ran]
    exact .refl disk
  · rw [disk_run_render parsed disk]
    exact .refl disk
  · exact grows_run_generate parsed failed early

theorem exists_of_failure_eq_reportNotText
    (failed : (run arguments disk).failure = some .reportNotText) :
    ∃ input json configuration after, parse arguments = some (.generate input json) ∧
      input.configurationOn disk = .ok configuration ∧ placeOn configuration disk = (.ok (), after) ∧
      reportText (configuration.report []) json = none ∧
      (run arguments disk).session.disk = after := by
  rcases parsed : parse arguments with _ | input | ⟨input, json⟩
  · simp [run, parsed] at failed
  · obtain ⟨notices, ran⟩ := run_render parsed disk
    rcases configured : input.configurationOn disk with failure | configuration
    · simp only [ran, configured, Option.some.injEq] at failed
      exact absurd (failed ▸ configured) configurationOn_ne_reportNotText
    · simp [ran, configured] at failed
  · have ends := generateEnds parsed disk
    generalize run arguments disk = ended at ends failed ⊢
    cases ends with
    | unconfigured configured =>
        exact absurd (Option.some.inj failed ▸ configured) configurationOn_ne_reportNotText
    | unplaced _ placed => exact absurd (Option.some.inj failed ▸ placed) placeOn_ne_reportNotText
    | unreported configured placed reported =>
        exact ⟨input, json, _, _, rfl, configured, placed, reported, rfl⟩
    | reported => cases failed

theorem failure_eq_reportNotText_iff :
    (run arguments disk).failure = some .reportNotText ↔
      ∃ input options part configuration, parse arguments = some (.generate input true) ∧
        input.readOn disk = .ok (options, part) ∧
        Configuration.ofOptions options part = .ok configuration ∧
        placeOn configuration disk = (.ok (), (run arguments disk).session.disk) ∧
        input.PlacesOffText options disk := by
  constructor
  · intro failed
    obtain ⟨input, json, configuration, after, parsed, configured, placed, reported, left⟩ :=
      exists_of_failure_eq_reportNotText failed
    obtain ⟨⟨options, part⟩, read, made⟩ := bind_eq_ok_iff.mp configured
    have generated := mapError_eq_ok_iff.mp made
    obtain ⟨rfl, off⟩ := (reportText_eq_none_iff read generated).mp reported
    exact ⟨input, options, part, configuration, parsed, read, generated, left.symm ▸ placed, off⟩
  · rintro ⟨input, options, part, configuration, parsed, read, generated, placed, off⟩
    generalize (run arguments disk).session.disk = after at placed
    obtain ⟨notices, ran⟩ := run_generate parsed disk
    have reported := (reportText_eq_none_iff read generated).mpr ⟨rfl, off⟩
    have configured : input.configurationOn disk = .ok configuration := by
      simp only [configurationOn_eq, read, generated, Except.mapError]
    simp only [ran, configured, placed, reported]

/-- Printing leaves a disk as it is, whether or not it succeeds. Putting in place leaves it as it
is unless the configuration is complete, and then says nothing. Whatever fails, nothing but
directories is added, unless it is the report that fails. That is made when the document is in
place, and the document stays there; it fails for the lack of a text of its path. -/
theorem failure_destroys_nothing_before_report (arguments : List Text) (disk : Disk) :
    let ended := run arguments disk
    (∀ input, parse arguments = some (.render input) → ended.session.disk = disk) ∧
    (∀ input json, parse arguments = some (.generate input json) →
      (input.LacksOptions disk ∨ (∃ raw ∈ input.overrides, BadOverride raw) ∨
        ∃ options part cause, input.readOn disk = .ok (options, part) ∧
          Configuration.ofOptions options part = .error cause) →
      ended.session.disk = disk ∧ ended.session.output = [] ∧ ended.code = 1) ∧
    (ended.code = 1 → ended.failure ≠ some .reportNotText → disk.Grows ended.session.disk) ∧
    (ended.failure = some .reportNotText ↔
      ∃ input options part configuration, parse arguments = some (.generate input true) ∧
        input.readOn disk = .ok (options, part) ∧
        Configuration.ofOptions options part = .ok configuration ∧
        placeOn configuration disk = (.ok (), ended.session.disk) ∧
        input.PlacesOffText options disk) := by
  refine ⟨fun input renders => disk_run_render renders disk, ?_, grows_run arguments disk,
    failure_eq_reportNotText_iff⟩
  intro input json generates hopeless
  obtain ⟨failure, failed⟩ := exists_configurationOn_error_iff.mpr hopeless
  obtain ⟨notices, ran⟩ := run_generate generates disk
  simp only [failed] at ran
  rw [ran]
  exact ⟨rfl, rfl, rfl⟩

theorem failure_destroys_nothing_before_report_midway :
    let disk : Disk := ⟨⟨[(["work".toList], .directory),
      (["work".toList, "parts".toList], .file 0o600 .empty)]⟩, ["work".toList]⟩
    let ended := run ["generate".toList] disk
    ended.code = 1 ∧ ended.failure ≠ some .reportNotText ∧ disk.Grows ended.session.disk ∧
      ended.session.disk.isDirectory "var/log".toList = true := by
  intro disk
  have failed : (run ["generate".toList] disk).code = 1 := by decide +kernel
  have early : (run ["generate".toList] disk).failure ≠ some .reportNotText := by decide +kernel
  have made : (run ["generate".toList] disk).session.disk.isDirectory "var/log".toList = true := by
    decide +kernel
  have grows := (failure_destroys_nothing_before_report ["generate".toList] disk).2.2.1
  exact ⟨failed, early, grows failed early, made⟩

/-- A run whose report fails has exchanged the document. -/
theorem exists_failure_replaces_document :
    let name : PathText := [.broken [0xff]]
    let document : Location := [name, "parts".toList, "supervisor".toList, "supervisord.conf".toList]
    let disk : Disk := ⟨⟨[([name], .directory), ([name, "parts".toList], .directory),
      ([name, "parts".toList, "supervisor".toList], .directory),
      (document, .file 0o600 .empty)]⟩, [name]⟩
    let ended := run ["generate".toList, "--json".toList] disk
    ended.code = 1 ∧ ended.session.disk.tree.find? document ≠ some (.file 0o600 .empty) ∧
      ¬disk.Grows ended.session.disk := by
  intro name document disk ended
  let path : PathText := "parts/supervisor/supervisord.conf".toList
  have failed : ended.code = 1 := by decide +kernel
  have written : ended.session.disk.readText path ≠ .ok [] := by decide +kernel
  have located : ended.session.disk.locate path = .ok document := by decide +kernel
  have exchanged : ended.session.disk.tree.find? document ≠ some (.file 0o600 .empty) := by
    intro same
    have entered : ended.session.disk.entry path = .ok (.file 0o600 .empty) :=
      Disk.entry_eq_ok_iff.mpr ⟨document, located, same⟩
    rw [Disk.readText, entered] at written
    exact written rfl
  refine ⟨failed, exchanged, fun grows => ?_⟩
  rcases grows.tree document with same | ⟨free, -⟩
  · exact exchanged same
  · cases free

end CommandLine

end Supervision
