import Supervision.Proofs.Deployment.Order
import Supervision.Proofs.Disk.Replacement
import Supervision.Proofs.Path.Components

/-!
The directories of a deployment: each one that something is put into, none of them twice, and all of
them before the document.
-/

namespace Supervision

open Text Outcome

namespace Path

inductive InDirectory (file : PathText) : PathText → Prop
  | above {directory : PathText} : parent? file = some directory → directory ≠ [] →
      InDirectory file directory
  | here : (∀ directory, parent? file = some directory → directory = []) → InDirectory file [.char '.']

theorem inDirectory_iff {file directory : PathText} :
    InDirectory file directory ↔ containing file = directory := by
  constructor
  · intro inside
    cases inside with
    | above found nonempty =>
        rw [containing, found]
        cases directory with
        | nil => exact absurd rfl nonempty
        | cons c directory => rfl
    | here noDirectory =>
        rw [containing]
        cases found : parent? file with
        | none => rfl
        | some directory =>
            obtain rfl := noDirectory directory found
            rfl
  · rintro rfl
    cases found : parent? file with
    | none =>
        rw [containing, found]
        exact .here fun directory other => by cases found.symm.trans other
    | some directory =>
        cases directory with
        | nil =>
            rw [containing, found]
            exact .here fun directory other => (Option.some.inj (found.symm.trans other)).symm
        | cons c directory =>
            rw [containing, found]
            exact .above found (List.cons_ne_nil c directory)

/-! Lists without repetitions. -/

/-- The list has all of these directories, in their order, but each path only once. -/
structure ListsOnce (directories wanted : List PathText) : Prop where
  sublist : directories.Sublist wanted
  distinct : directories.Pairwise fun first second => same first second = false
  complete : ∀ directory ∈ wanted, ∃ listed ∈ directories, same directory listed = true

theorem ListsOnce.singleton (directory : PathText) : ListsOnce [directory] [directory] where
  sublist := List.Sublist.refl _
  distinct := List.pairwise_singleton _ _
  complete := fun other member => ⟨directory, List.mem_singleton_self _, by
    rw [List.mem_singleton.mp member]
    exact same_iff.mpr rfl⟩

theorem ListsOnce.addNew {directories wanted : List PathText} (lists : ListsOnce directories wanted)
    (directory : PathText) : ListsOnce (addNew directories directory) (wanted ++ [directory]) := by
  unfold Path.addNew
  by_cases listed : directories.any (same directory) = true
  · rw [if_pos listed]
    refine ⟨lists.sublist.trans (List.sublist_append_left _ _), lists.distinct, ?_⟩
    intro other member
    rcases List.mem_append.mp member with before | last
    · exact lists.complete other before
    · obtain rfl := List.mem_singleton.mp last
      exact List.any_eq_true.mp listed
  · rw [if_neg listed]
    rw [Bool.not_eq_true, List.any_eq_false] at listed
    refine ⟨lists.sublist.append (List.Sublist.refl _), ?_, ?_⟩
    · refine List.pairwise_append.mpr ⟨lists.distinct, List.pairwise_singleton _ _, ?_⟩
      intro first member second last
      obtain rfl := List.mem_singleton.mp last
      have apart := listed first member
      rw [same_iff] at apart
      exact beq_eq_false_iff_ne.mpr (Ne.symm apart)
    · intro other member
      rcases List.mem_append.mp member with before | last
      · obtain ⟨first, inside, equal⟩ := lists.complete other before
        exact ⟨first, List.mem_append_left _ inside, equal⟩
      · obtain rfl := List.mem_singleton.mp last
        exact ⟨other, List.mem_append_right _ last, same_iff.mpr rfl⟩

theorem prefix_addNew (directories : List PathText) (directory : PathText) :
    directories <+: Path.addNew directories directory := by
  unfold Path.addNew
  split
  · exact List.prefix_rfl
  · exact List.prefix_append _ _

end Path

theorem Disk.replaceFile_cases (disk : Disk) (path : PathText) (contents : Text) :
    (∃ fault, disk.temporaryPlace (Path.containing path) = .error fault ∧
      disk.replaceFile path contents = (some (.temporary (Path.containing path)), disk)) ∨
    ∃ above name, disk.locate (Path.containing path) = .ok above ∧
      disk.temporaryPlace (Path.containing path) = .ok (above ++ [name]) ∧
      disk.replaceFile path contents = disk.replaceThrough (above ++ [name]) path contents := by
  cases placed : disk.temporaryPlace (Path.containing path) with
  | error fault => exact Or.inl ⟨fault, rfl, by rw [replaceFile, placed]⟩
  | ok temporary =>
      obtain ⟨above, located, made⟩ := bind_eq_ok_iff.mp placed
      split at made
      · obtain rfl := pure_eq_ok_iff.mp made
        exact Or.inr ⟨above, _, located, rfl, by rw [replaceFile, placed]⟩
      · cases made

namespace Configuration

variable {options : Options} {part : Part} {configuration : Configuration}

/-- The directories into which something is put: the logs of the programs, the log and the process
number of the daemon, and the document. -/
inductive Needs (options : Options) (part : Part) : PathText → Prop
  | childLogs : Needs options part (Daemon.resolve options part).childLogDir
  | logFile {directory : PathText} : Path.InDirectory (Daemon.resolve options part).logFile directory →
      Needs options part directory
  | pidFile {directory : PathText} : Path.InDirectory (Daemon.resolve options part).pidFile directory →
      Needs options part directory
  | document {directory : PathText} : Path.parent? (part.configPath options) = some directory →
      directory ≠ [] → Needs options part directory

def documentDir (configuration : Configuration) : Option PathText :=
  (Path.parent? configuration.path).filter fun directory => !directory.isEmpty

def wantedDirs (configuration : Configuration) : List PathText :=
  [PathText.ofText configuration.daemon.childLogDir, Path.containing configuration.daemon.logFile,
    Path.containing configuration.daemon.pidFile] ++ configuration.documentDir.toList

theorem directories_eq (configuration : Configuration) :
    configuration.directories =
      configuration.documentDir.toList.foldl Path.addNew configuration.daemon.runtimeDirs := by
  rw [directories, documentDir]
  split
  · rename_i found
    rw [found]
    rfl
  · rename_i found
    rw [found]
    rfl
  · rename_i directory notEmpty found
    rw [found]
    cases directory with
    | nil => exact absurd rfl notEmpty
    | cons c directory => rfl

theorem listsOnce_directories (configuration : Configuration) :
    Path.ListsOnce configuration.directories configuration.wantedDirs := by
  have runtime := ((Path.ListsOnce.singleton configuration.daemon.childLogDir).addNew
    (Path.containing configuration.daemon.logFile)).addNew
      (Path.containing configuration.daemon.pidFile)
  rw [directories_eq, wantedDirs]
  cases configuration.documentDir with
  | none => exact runtime
  | some directory => exact runtime.addNew directory

theorem prefix_directories (configuration : Configuration) :
    [PathText.ofText configuration.daemon.childLogDir] <+: configuration.directories := by
  have runtime := (Path.prefix_addNew [PathText.ofText configuration.daemon.childLogDir]
    (Path.containing configuration.daemon.logFile)).trans
      (Path.prefix_addNew _ (Path.containing configuration.daemon.pidFile))
  rw [directories_eq]
  cases configuration.documentDir with
  | none => exact runtime
  | some directory => exact runtime.trans (Path.prefix_addNew _ directory)

theorem documentDir_eq_some_iff {directory : PathText} :
    configuration.documentDir = some directory ↔
      Path.parent? configuration.path = some directory ∧ directory ≠ [] := by
  rw [documentDir, Option.filter_eq_some_iff, Bool.not_eq_true', List.isEmpty_eq_false_iff]

theorem needs_iff (generated : Configuration.ofOptions options part = .ok configuration)
    {directory : PathText} : Needs options part directory ↔ directory ∈ configuration.wantedDirs := by
  obtain ⟨transport, records, -, -, rfl⟩ := ofOptions_eq_ok_iff.mp generated
  simp only [wantedDirs, List.mem_append, List.mem_cons, List.not_mem_nil, or_false,
    Option.mem_toList, documentDir_eq_some_iff]
  constructor
  · intro needed
    cases needed with
    | childLogs => exact Or.inl (Or.inl rfl)
    | logFile inside =>
        exact Or.inl (Or.inr (Or.inl (Path.inDirectory_iff.mp inside).symm))
    | pidFile inside =>
        exact Or.inl (Or.inr (Or.inr (Path.inDirectory_iff.mp inside).symm))
    | document found nonempty => exact Or.inr ⟨found, nonempty⟩
  · rintro ((rfl | rfl | rfl) | ⟨found, nonempty⟩)
    · exact .childLogs
    · exact .logFile (Path.inDirectory_iff.mpr rfl)
    · exact .pidFile (Path.inDirectory_iff.mpr rfl)
    · exact .document found nonempty

theorem length_wantedDirs_le (configuration : Configuration) :
    configuration.wantedDirs.length ≤ 4 := by
  rw [wantedDirs]
  cases configuration.documentDir <;> simp

/-! Before the document. -/

variable {Failure World : Type} {host : Host Failure (StateM World)}

theorem ensured_before_replaceFile {requests : List InstallRequest} {world : World}
    {front back : List HostCall} {path : PathText} {text : Text}
    (made : (ending (configuration.deploy host.recorded requests) (world, [])).2.2 =
      front ++ .replaceFile path text :: back) :
    front = configuration.directories.map .ensureDirectory ∧
      ∃ outputs next, host.Performs world front outputs next := by
  rw [made_deploy] at made
  obtain ⟨rest, whole⟩ := host.made_prefix (configuration.plan requests) world
  rw [made, List.append_assoc] at whole
  exact ⟨(front_of_replaceFile whole.symm).1, Host.performs_of_made made⟩

/-- The directories of a deployment are those that it needs, up to equality of paths, with that of
the logs of the programs first and none of them twice. They are all there before the document is
replaced, and where its path has a directory the temporary file is made there. -/
theorem directories_ensured (generated : Configuration.ofOptions options part = .ok configuration) :
    configuration.path = part.configPath options ∧
    (∃ others, configuration.directories =
      PathText.ofText (Daemon.resolve options part).childLogDir :: others) ∧
    configuration.directories.Pairwise (fun first second => Path.same first second = false) ∧
    configuration.directories.length ≤ 4 ∧
    (∀ directory, Needs options part directory →
      ∃ listed ∈ configuration.directories, Path.same directory listed = true) ∧
    (∀ listed ∈ configuration.directories, Needs options part listed) ∧
    (∀ directory, Path.parent? configuration.path = some directory → directory ≠ [] →
      ∀ (disk : Disk) (contents : Text),
        (∃ fault, disk.temporaryPlace directory = .error fault ∧
          disk.replaceFile configuration.path contents = (some (.temporary directory), disk)) ∨
        ∃ above name, disk.locate directory = .ok above ∧
          disk.temporaryPlace directory = .ok (above ++ [name]) ∧
          disk.replaceFile configuration.path contents =
            disk.replaceThrough (above ++ [name]) configuration.path contents) ∧
    ∀ {Failure World : Type} (host : Host Failure (StateM World)) (requests : List InstallRequest)
        (world : World),
      let run := ending (configuration.deploy host.recorded requests) (world, [])
      (∀ front path text back, run.2.2 = front ++ .replaceFile path text :: back →
        front = configuration.directories.map .ensureDirectory ∧
          ∃ outputs next, host.Performs world front outputs next) ∧
      ∀ report after made, run = (.ok report, (after, made)) →
        report.directories = configuration.directories ∧
          ∃ later, made = configuration.directories.map .ensureDirectory ++ later ∧
            ∀ directory, .ensureDirectory directory ∉ later := by
  have lists := configuration.listsOnce_directories
  refine ⟨?_, ?_, lists.distinct,
    Nat.le_trans lists.sublist.length_le configuration.length_wantedDirs_le,
    fun directory needed => lists.complete directory ((needs_iff generated).mp needed),
    fun listed member => (needs_iff generated).mpr (lists.sublist.subset member), ?_, ?_⟩
  · obtain ⟨transport, records, -, -, rfl⟩ := ofOptions_eq_ok_iff.mp generated
    rfl
  · obtain ⟨others, whole⟩ := configuration.prefix_directories
    obtain ⟨transport, records, -, -, rfl⟩ := ofOptions_eq_ok_iff.mp generated
    exact ⟨others, whole.symm⟩
  · intro directory found nonempty disk contents
    have inside := Path.inDirectory_iff.mp (.above found nonempty)
    exact inside ▸ disk.replaceFile_cases configuration.path contents
  · intro Failure World host requests world run
    refine ⟨fun front path text back made => ensured_before_replaceFile made, ?_⟩
    intro report after made ended
    obtain ⟨installed, -, rfl, rfl⟩ := ending_deploy_eq_ok_iff.mp ended
    refine ⟨rfl, _, rfl, ?_⟩
    simp

theorem directories_ensured_in_dots :
    let options := Options.ofList [("childlogdir".toList, "logs/".toList),
      ("logfile".toList, "logs//./daemon.log".toList), ("pidfile".toList, "daemon.pid".toList),
      ("supervisord-conf".toList, "/etc//./daemon.conf".toList)]
    ∃ configuration, Configuration.ofOptions options ⟨"/srv", "main"⟩ = .ok configuration ∧
      configuration.directories =
        ["logs/".toList, ".".toList, "/etc".toList].map PathText.ofText ∧
      Needs options ⟨"/srv", "main"⟩ "logs".toList ∧
      (∃ listed ∈ configuration.directories, Path.same "logs".toList listed = true) ∧
      Needs options ⟨"/srv", "main"⟩ ".".toList := by
  intro options
  obtain ⟨configuration, generated, known⟩ : ∃ configuration,
      Configuration.ofOptions options ⟨"/srv", "main"⟩ = .ok configuration ∧
        decide (configuration.directories =
          ["logs/".toList, ".".toList, "/etc".toList].map PathText.ofText) = true :=
    exists_eq_ok_of_any (by decide +kernel)
  have directories := of_decide_eq_true known
  obtain ⟨-, -, -, -, listed, needed, -⟩ := directories_ensured generated
  have logs : Needs options ⟨"/srv", "main"⟩ "logs".toList :=
    .logFile (.above (by decide +kernel) (by decide))
  exact ⟨configuration, generated, directories, logs, listed _ logs,
    needed _ (by simp [directories])⟩

end Configuration

end Supervision
