import Supervision.Proofs.Deployment.Directories
import Supervision.Proofs.Path.Characters

/-!
When a report can be written: every path in it has to be a text, which comes down to the path of the
document.
-/

namespace Supervision

open PathText

theorem PathText.exists_mapM_written?_iff {paths : List PathText} :
    (∃ texts, paths.mapM written? = some texts) ↔ ∀ path ∈ paths, IsText path := by
  induction paths with
  | nil => simp
  | cons path paths ih =>
      rw [List.forall_mem_cons, ← ih, ← exists_written?_iff]
      simp [Option.bind_eq_some_iff]

theorem Report.exists_json_iff {report : Report} :
    (∃ text, report.json = some text) ↔ IsText report.configFile ∧
      (∀ path ∈ report.directories, IsText path) ∧ ∀ path ∈ report.artifacts, IsText path := by
  rw [← exists_written?_iff, ← exists_mapM_written?_iff, ← exists_mapM_written?_iff, json]
  constructor
  · rintro ⟨text, written⟩
    obtain ⟨configFile, first, written⟩ := Option.bind_eq_some_iff.mp written
    obtain ⟨directories, second, written⟩ := Option.bind_eq_some_iff.mp written
    obtain ⟨artifacts, third, -⟩ := Option.bind_eq_some_iff.mp written
    exact ⟨⟨configFile, first⟩, ⟨directories, second⟩, ⟨artifacts, third⟩⟩
  · rintro ⟨⟨configFile, first⟩, ⟨directories, second⟩, ⟨artifacts, third⟩⟩
    simp only [first, second, third]
    exact ⟨_, rfl⟩

namespace Configuration

variable {configuration : Configuration} {directory : PathText}

theorem isText_of_mem_directories (text : IsText configuration.path)
    (member : directory ∈ configuration.directories) : IsText directory := by
  have wanted := configuration.listsOnce_directories.sublist.subset member
  simp only [wantedDirs, List.mem_append, List.mem_cons, List.not_mem_nil, or_false,
    Option.mem_toList, documentDir_eq_some_iff] at wanted
  rcases wanted with (rfl | rfl | rfl) | ⟨found, -⟩
  · exact isText_ofText _
  · exact Path.isText_containing (isText_ofText _)
  · exact Path.isText_containing (isText_ofText _)
  · exact Path.isText_parent? text found

theorem exists_json_report_iff :
    (∃ text, (configuration.report []).json = some text) ↔ IsText configuration.path := by
  rw [Report.exists_json_iff]
  constructor
  · exact fun all => all.1
  · intro text
    exact ⟨text, fun directory => isText_of_mem_directories text,
      List.forall_mem_singleton.mpr text⟩

end Configuration

/-- The path of the document is a text unless it is made from a base directory that is none. -/
theorem Part.isText_configPath_iff {part : Part} {options : Options} :
    IsText (part.configPath options) ↔ (∃ path, options.get? "supervisord-conf" = some path) ∨
      part.name.head? = some '/' ∨ IsText part.baseDir := by
  rw [configPath]
  cases options.get? "supervisord-conf" with
  | some path => simp [isText_ofText]
  | none =>
    simp only [Path.isText_join_iff]
    simp

theorem PathText.isText_intercalate_iff {between : Text} {paths : List PathText} :
    IsText ((ofText between).intercalate paths) ↔ ∀ path ∈ paths, IsText path := by
  induction paths with
  | nil => simpa using isText_ofText []
  | cons path paths ih =>
      cases paths with
      | nil => simp
      | cons next paths =>
          rw [List.intercalate_cons_cons, isText_append_iff, isText_append_iff, ih,
            List.forall_mem_cons]
          simp [isText_ofText]

theorem Disk.isText_workingDirectory_iff {disk : Disk} :
    IsText disk.workingDirectory ↔ ∀ name ∈ disk.here, IsText name := by
  have slash : IsText [.char '/'] := isText_ofText ['/']
  rw [workingDirectory, ← List.singleton_append, isText_append_iff, and_iff_right slash]
  exact @isText_intercalate_iff ['/'] disk.here

end Supervision
