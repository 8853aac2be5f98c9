import Supervision.Proofs.CommandLine.Failure

/-!
Runs of the command line that succeed. What is put in place is what would be printed, and putting it
in place once more changes nothing.
-/

namespace Supervision

open Text Outcome

namespace CommandLine

variable {arguments rendering generating : List Text} {input : Input} {json : Bool} {disk : Disk}
  {configuration : Configuration}

theorem exists_of_run_generate (generates : parse arguments = some (.generate input json))
    (done : (run arguments disk).code = 0) :
    ∃ configuration after text notices, input.configurationOn disk = .ok configuration ∧
      placeOn configuration disk = (.ok (), after) ∧
      reportText (configuration.report []) json = some text ∧
      run arguments disk = ⟨0, none, ⟨after, text, notices⟩⟩ := by
  have ends := generateEnds generates disk
  generalize run arguments disk = ended at ends done ⊢
  cases ends with
  | unconfigured => cases done
  | unplaced => cases done
  | unreported => cases done
  | reported configured placed reported =>
      exact ⟨_, _, _, _, configured, placed, reported, rfl⟩

/-- Printing succeeds whenever putting in place does, and prints what is then in place. When
printing fails, putting in place fails in the same way and leaves the disk as it is. -/
theorem generate_agrees_with_render (renders : parse rendering = some (.render input))
    (generates : parse generating = some (.generate input json)) (disk : Disk) :
    let rendered := run rendering disk
    let generated := run generating disk
    (generated.code = 0 → rendered.code = 0 ∧ ∃ configuration mode,
      input.configurationOn disk = .ok configuration ∧
      generated.session.disk.entry configuration.path =
        .ok (.file mode (asString rendered.session.output).toUTF8)) ∧
    (rendered.code ≠ 0 → generated.code = rendered.code ∧
      (∃ failure, rendered.failure = some failure ∧ generated.failure = some failure) ∧
      generated.session.disk = disk) := by
  obtain ⟨notices, printed⟩ := run_render renders disk
  refine ⟨fun done => ?_, fun failed => ?_⟩
  · obtain ⟨configuration, after, _, _, configured, placed, -, ran⟩ :=
      exists_of_run_generate generates done
    obtain ⟨mode, entered⟩ := Disk.entry_of_placeFile placed
    simp only [configured] at printed
    rw [printed, ran]
    exact ⟨rfl, configuration, mode, configured, entered⟩
  · rcases configured : input.configurationOn disk with failure | configuration
    · obtain ⟨_, ran⟩ := run_generate generates disk
      simp only [configured] at printed ran
      rw [printed, ran]
      exact ⟨rfl, ⟨failure, rfl, rfl⟩, rfl⟩
    · simp only [configured] at printed
      rw [printed] at failed
      exact absurd rfl failed

theorem generate_agrees_with_render_by_default :
    let disk : Disk := ⟨⟨[(["work".toList], .directory)]⟩, ["work".toList]⟩
    let rendered := run ["render".toList] disk
    let generated := run ["generate".toList] disk
    generated.code = 0 ∧ rendered.code = 0 ∧ ∃ configuration mode,
      Input.configurationOn ⟨none, [], none, none⟩ disk = .ok configuration ∧
      generated.session.disk.entry configuration.path =
        .ok (.file mode (asString rendered.session.output).toUTF8) := by
  intro disk
  have renders : parse ["render".toList] = some (.render ⟨none, [], none, none⟩) := rfl
  have generates : parse ["generate".toList] = some (.generate ⟨none, [], none, none⟩ false) := rfl
  have done : (run ["generate".toList] disk).code = 0 := by decide +kernel
  exact ⟨done, (generate_agrees_with_render renders generates disk).1 done⟩

theorem configurationOn_again {after : Disk}
    (configured : input.configurationOn disk = .ok configuration)
    (placed : placeOn configuration disk = (.ok (), after))
    (apart : ∀ path, input.optionsFile = some path → ¬after.SamePlace configuration.path path) :
    input.configurationOn after = .ok configuration := by
  have texts : ∀ path, input.optionsFile = some path →
      after.readText path = disk.readText path := by
    intro path file
    have usable : ¬input.LacksOptions disk := by
      intro lacks
      obtain ⟨failure, failed⟩ := exists_configurationOn_error_iff.mpr (Or.inl lacks)
      cases configured.symm.trans failed
    obtain ⟨text, options, read, -⟩ : ∃ text options, disk.readText path = .ok text ∧
        Options.ofToml text = .ok options := by
      by_contra unusable
      exact usable ⟨path, file, unusable⟩
    rw [read]
    exact Disk.readText_of_placeFile placed read (apart path file)
  have same := readOn_congr (Disk.keeps_of_placeFile placed).here texts
  rw [← configured, Input.configurationOn, Input.configurationOn, same]

/-- Putting in place succeeds again, prints the same and leaves the disk as the first run left it,
unless the document took the place of the options. A path may lead there only once the directories
are made, so where both paths lead is told by the disk that the first run left. -/
theorem generate_again (generates : parse arguments = some (.generate input json))
    (done : (run arguments disk).code = 0)
    (apart : ∀ configuration path, input.configurationOn disk = .ok configuration →
      input.optionsFile = some path →
      ¬(run arguments disk).session.disk.SamePlace configuration.path path) :
    let first := run arguments disk
    let second := run arguments first.session.disk
    second.code = 0 ∧ second.session.output = first.session.output ∧
      second.session.disk = first.session.disk := by
  obtain ⟨configuration, after, text, _, configured, placed, reported, ran⟩ :=
    exists_of_run_generate generates done
  rw [ran] at apart
  have again : input.configurationOn after = .ok configuration :=
    configurationOn_again configured placed fun path => apart configuration path configured
  have still : placeOn configuration after = (.ok (), after) := Disk.placeFile_again placed
  obtain ⟨_, second⟩ := run_generate generates after
  simp only [again, still, reported] at second
  simp only [ran, second, and_self]

theorem generate_again_beside_options :
    let disk : Disk := ⟨⟨[(["work".toList], .directory),
      (["work".toList, "options".toList],
        .file 0o600 "supervisord-conf = 'document'".toUTF8)]⟩, ["work".toList]⟩
    let arguments := ["generate".toList, "--options".toList, "options".toList]
    let first := run arguments disk
    let second := run arguments first.session.disk
    second.code = 0 ∧ second.session.output = first.session.output ∧
      second.session.disk = first.session.disk := by
  intro disk arguments
  have named : (Input.configurationOn ⟨some "options".toList, [], none, none⟩ disk).toOption.map
      Configuration.path = some "document".toList := by decide +kernel
  have different : (run arguments disk).session.disk.locate "document".toList ≠
      (run arguments disk).session.disk.locate "options".toList := by decide +kernel
  have generates : parse arguments =
      some (.generate ⟨some "options".toList, [], none, none⟩ false) := rfl
  refine generate_again generates (by decide +kernel) ?_
  rintro configuration path configured ⟨⟩ ⟨location, document, options⟩
  rw [configured] at named
  have path : configuration.path = "document".toList := Option.some.inj named
  rw [path] at document
  exact different (document.trans options.symm)

end CommandLine

end Supervision
