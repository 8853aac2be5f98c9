import Supervision.Proofs.CommandLine.Placement
import Supervision.Proofs.Deployment.Calls

/-!
What runs of the command line do to a disk and what they print. The options are read and a
configuration is made of them, which changes nothing; then it is printed or put in place.
-/

namespace Supervision

open Text Outcome

namespace CommandLine

def optionsOn (disk : Disk) (path : PathText) : Except Failure Options := do
  let text ← (disk.readText path).mapError (.unreadableOptions path)
  (Options.ofToml text).mapError (.unusableOptions path)

def Input.givenOn (input : Input) (disk : Disk) : Except Failure Options :=
  match input.optionsFile with
  | some path => optionsOn disk path
  | none => .ok Options.empty

def Input.partOn (input : Input) (disk : Disk) : Part where
  baseDir :=
    match input.baseDir with
    | some directory => directory
    | none => disk.workingDirectory
  name := input.name.getD "supervisor"

def Input.readOn (input : Input) (disk : Disk) : Except Failure (Options × Part) := do
  let given ← input.givenOn disk
  let options ← (given.overrideAll input.overrides).mapError .badOverride
  return (options, input.partOn disk)

def Input.configurationOn (input : Input) (disk : Disk) : Except Failure Configuration := do
  let (options, part) ← input.readOn disk
  (Configuration.ofOptions options part).mapError .badConfiguration

def placeOn (configuration : Configuration) (disk : Disk) : Except Failure Unit × Disk :=
  disk.placeFile configuration.directories configuration.path configuration.text

/-- The step reads a value off the disk and does nothing but add notices. -/
def OnlyReads {α : Type} (step : Session.Action α) (value : Disk → Except Failure α) : Prop :=
  ∀ session, ∃ notices, ending step session = (value session.disk, { session with notices })

variable {input : Input} {disk : Disk} {session : Session} {α β : Type}

/-! Steps that read -/

theorem OnlyReads.pure (value : α) : OnlyReads (Pure.pure value) fun _ => .ok value :=
  fun session => ⟨session.notices, rfl⟩

theorem OnlyReads.bind {step : Session.Action α} {next : α → Session.Action β}
    {value : Disk → Except Failure α} {later : α → Disk → Except Failure β}
    (first : OnlyReads step value) (second : ∀ found, OnlyReads (next found) (later found)) :
    OnlyReads (step >>= next) fun disk => value disk >>= fun found => later found disk := by
  intro session
  obtain ⟨notices, ended⟩ := first session
  simp only [ending_bind, ended]
  rcases value session.disk with failure | found
  · exact ⟨notices, rfl⟩
  · exact second found { session with notices }

theorem ending_orThrow {ε : Type} (failure : ε → Failure) (result : Except ε α)
    (session : Session) :
    ending (orThrow failure result : Session.Action α) session =
      (result.mapError failure, session) := by
  cases result <;> rfl

theorem reads_orThrow {ε : Type} (failure : ε → Failure) (result : Except ε α) :
    OnlyReads (orThrow failure result) fun _ => result.mapError failure :=
  fun session => ⟨session.notices, ending_orThrow failure result session⟩

theorem reads_forM_note (notices : List Notice) :
    OnlyReads (notices.forM Session.note : StateM Session Unit) fun _ => .ok () := by
  intro session
  induction notices generalizing session with
  | nil => exact ⟨session.notices, rfl⟩
  | cons notice notices ih => exact ih { session with notices := session.notices ++ [notice] }

theorem reads_readText (path : PathText) :
    OnlyReads (Session.readText path) fun disk =>
      (disk.readText path).mapError (.unreadableOptions path) :=
  fun session => reads_orThrow (.unreadableOptions path) (session.disk.readText path) session

theorem reads_workingDirectory :
    OnlyReads Session.shell.workingDirectory fun disk => .ok disk.workingDirectory :=
  fun session => ⟨session.notices, rfl⟩

theorem reads_loadOptions (path : PathText) :
    OnlyReads (loadOptions Session.shell.readText path) fun disk => optionsOn disk path :=
  (reads_readText path).bind fun text => reads_orThrow _ (Options.ofToml text)

theorem reads_overridden (given : Options) (overrides : List Text) (name : Text)
    {directory : Session.Action PathText} {baseDir : Disk → PathText}
    (reads : OnlyReads directory fun disk => .ok (baseDir disk)) :
    OnlyReads (do
      let options ← orThrow .badOverride (given.overrideAll overrides)
      (options.unknownNotices.forM Session.note : StateM Session Unit)
      let baseDir ← directory
      return (options, { baseDir, name : Part })) fun disk => do
        let options ← (given.overrideAll overrides).mapError .badOverride
        return (options, { baseDir := baseDir disk, name }) :=
  (reads_orThrow _ (given.overrideAll overrides)).bind fun options =>
    (reads_forM_note options.unknownNotices).bind fun _ => reads.bind fun _ => .pure _

theorem reads_load (input : Input) : OnlyReads (input.load Session.shell) input.readOn := by
  -- Options and base directory may each be given or not; what lies between them is the same.
  obtain ⟨_ | path, overrides, _ | directory, name⟩ := input
  · exact (OnlyReads.pure Options.empty).bind fun given =>
      reads_overridden given overrides _ reads_workingDirectory
  · exact (OnlyReads.pure Options.empty).bind fun given =>
      reads_overridden given overrides _ (.pure (PathText.ofText directory))
  · exact (reads_loadOptions path).bind fun given =>
      reads_overridden given overrides _ reads_workingDirectory
  · exact (reads_loadOptions path).bind fun given =>
      reads_overridden given overrides _ (.pure (PathText.ofText directory))

/-- Only the text of the options file and the directory that paths start from matter. -/
theorem readOn_congr {after : Disk} (here : after.here = disk.here)
    (texts : ∀ path, input.optionsFile = some path → after.readText path = disk.readText path) :
    input.readOn after = input.readOn disk := by
  have given : input.givenOn after = input.givenOn disk := by
    rcases file : input.optionsFile with _ | path
    · simp only [Input.givenOn, file]
    · simp only [Input.givenOn, file, optionsOn, texts path file]
  have part : input.partOn after = input.partOn disk := by
    simp only [Input.partOn, Disk.workingDirectory, here]
  rw [Input.readOn, Input.readOn, given, part]

theorem reads_configure (options : Options) (part : Part) :
    OnlyReads (configure Session.shell options part) fun _ =>
      (Configuration.ofOptions options part).mapError .badConfiguration :=
  (reads_forM_note _).bind fun _ => reads_orThrow _ (Configuration.ofOptions options part)

/-! Steps that put things in place -/

theorem ending_ensureDirectory (path : PathText) (session : Session) :
    ending (Session.ensureDirectory path) session =
      match session.disk.ensureDirectory path with
      | (none, disk) => (.ok (), { session with disk })
      | (some _, disk) => (.error (.cannotCreateDirectory path), { session with disk }) := by
  have unfolded : ending (Session.ensureDirectory path) session =
      ending (if (session.disk.ensureDirectory path).1.isSome then
          throw (Failure.cannotCreateDirectory path) else pure () : Session.Action Unit)
        { session with disk := (session.disk.ensureDirectory path).2 } := rfl
  rw [unfolded]
  rcases session.disk.ensureDirectory path with ⟨_ | fault, disk⟩
  · rfl
  · rfl

theorem ending_replaceFile (path : PathText) (contents : Text) (session : Session) :
    ending (Session.replaceFile path contents) session =
      match session.disk.replaceFile path contents with
      | (none, disk) => (.ok (), { session with disk })
      | (some fault, held) =>
          (.error (Session.writeFailure fault), { session with disk := held.release fault }) := by
  have unfolded : ending (Session.replaceFile path contents) session =
      ending (match session.disk.replaceFile path contents with
        | (none, disk) => set { session with disk }
        | (some fault, disk) => do
            set { session with disk := disk.release fault }
            throw (Session.writeFailure fault) : Session.Action Unit) session := rfl
  rw [unfolded]
  rcases session.disk.replaceFile path contents with ⟨_ | fault, disk⟩
  · rfl
  · rfl

theorem ending_forM_ensureDirectory (paths : List PathText) (session : Session) :
    ending (paths.forM Session.ensureDirectory) session =
      ((Disk.ensureAll paths session.disk).1,
        { session with disk := (Disk.ensureAll paths session.disk).2 }) := by
  induction paths generalizing session with
  | nil => rfl
  | cons path paths ih =>
      have unfolded : (path :: paths).forM Session.ensureDirectory =
        (Session.ensureDirectory path >>= fun _ => paths.forM Session.ensureDirectory) := rfl
      rw [unfolded, ending_bind, ending_ensureDirectory, Disk.ensureAll]
      rcases session.disk.ensureDirectory path with ⟨_ | fault, made⟩
      · exact ih { session with disk := made }
      · rfl

theorem reads_mapM_announceOnly (requests : List InstallRequest) :
    OnlyReads (requests.mapM (announceOnly Session.note)) fun _ => .ok (requests.map fun _ => []) := by
  induction requests with
  | nil => exact .pure []
  | cons request requests ih =>
      rw [List.mapM_cons]
      have first : OnlyReads (announceOnly Session.note request) fun _ => .ok [] :=
        fun session => ⟨session.notices ++ [request.notice], rfl⟩
      exact first.bind fun _ => ih.bind fun _ => .pure _

theorem reads_report (configuration : Configuration) (requests : List InstallRequest) :
    OnlyReads (do
      (Session.note (.configWritten configuration.path) : StateM Session Unit)
      let installed ← requests.mapM (announceOnly Session.note)
      return configuration.report installed.flatten) fun _ => .ok (configuration.report []) := by
  have nothing : (requests.map fun _ => ([] : List PathText)).flatten = [] := by simp
  have noted : OnlyReads (Session.note (.configWritten configuration.path) : StateM Session Unit)
      fun _ => .ok () :=
    fun session => ⟨session.notices ++ [.configWritten configuration.path], rfl⟩
  rw [← nothing]
  exact noted.bind fun _ => (reads_mapM_announceOnly requests).bind fun _ => .pure _

theorem ending_deploy (configuration : Configuration) (requests : List InstallRequest)
    (session : Session) :
    ∃ notices, ending (configuration.deploy Session.shell.toHost requests) session =
      ((placeOn configuration session.disk).1.map fun _ => configuration.report [],
        { session with disk := (placeOn configuration session.disk).2, notices }) := by
  have unfolded : configuration.deploy Session.shell.toHost requests =
      (configuration.directories.forM Session.ensureDirectory >>= fun _ =>
        Session.replaceFile configuration.path configuration.text >>= fun _ => do
          (Session.note (.configWritten configuration.path) : StateM Session Unit)
          let installed ← requests.mapM (announceOnly Session.note)
          return configuration.report installed.flatten) := rfl
  rw [unfolded, ending_bind, ending_forM_ensureDirectory, placeOn, Disk.placeFile]
  rcases Disk.ensureAll configuration.directories session.disk with ⟨failure | _, ready⟩
  · exact ⟨session.notices, rfl⟩
  · simp only [ending_bind (Session.replaceFile _ _), ending_replaceFile]
    rcases ready.replaceFile configuration.path configuration.text with ⟨_ | fault, after⟩
    · exact reads_report configuration requests { session with disk := after }
    · exact ⟨session.notices, rfl⟩

theorem ending_printReport (report : Report) (json : Bool) (session : Session) :
    ending (printReport Session.shell report json) session =
      match reportText report json with
      | some text => (.ok (), { session with output := session.output ++ text })
      | none => (.error .reportNotText, session) := by
  rw [printReport]
  rcases reportText report json with _ | text
  · rfl
  · rfl

/-! Whole runs -/

theorem configurationOn_eq (input : Input) (disk : Disk) :
    input.configurationOn disk =
      match input.readOn disk with
      | .error failure => .error failure
      | .ok found => (Configuration.ofOptions found.1 found.2).mapError .badConfiguration := by
  rw [Input.configurationOn]
  rcases input.readOn disk with failure | found
  · rfl
  · rfl

theorem ending_configured (next : Options × Part → Configuration → Session.Action β)
    (input : Input) (disk : Disk) :
    ∃ notices, ending (do
        let found ← input.load Session.shell
        let configuration ← configure Session.shell found.1 found.2
        next found configuration) (Session.start disk) =
      match input.readOn disk with
      | .error failure => (.error failure, ⟨disk, [], notices⟩)
      | .ok found =>
          match Configuration.ofOptions found.1 found.2 with
          | .error cause => (.error (.badConfiguration cause), ⟨disk, [], notices⟩)
          | .ok configuration => ending (next found configuration) ⟨disk, [], notices⟩ := by
  obtain ⟨loadNotices, loaded⟩ := reads_load input (Session.start disk)
  simp only [Session.start] at loaded ⊢
  rw [ending_bind, loaded]
  rcases input.readOn disk with failure | found
  · exact ⟨loadNotices, rfl⟩
  · obtain ⟨notices, configured⟩ := reads_configure found.1 found.2 ⟨disk, [], loadNotices⟩
    simp only [ending_bind, configured]
    rcases Configuration.ofOptions found.1 found.2 with cause | configuration
    · exact ⟨notices, rfl⟩
    · exact ⟨notices, rfl⟩

theorem run_of_parse {arguments : List Text} {command : Command}
    (parsed : parse arguments = some command) (disk : Disk) :
    run arguments disk =
      match ending (command.run Session.shell) (Session.start disk) with
      | (.ok _, session) => ⟨0, none, session⟩
      | (.error failure, session) => ⟨1, some failure, session⟩ := by
  rw [run, parsed]
  rfl

theorem run_render {arguments : List Text} (renders : parse arguments = some (.render input))
    (disk : Disk) :
    ∃ notices, run arguments disk =
      match input.configurationOn disk with
      | .error failure => ⟨1, some failure, ⟨disk, [], notices⟩⟩
      | .ok configuration => ⟨0, none, ⟨disk, configuration.text, notices⟩⟩ := by
  obtain ⟨notices, ended⟩ := ending_configured
    (fun _ configuration => (Session.print configuration.text : StateM Session Unit)) input disk
  have unfolded : ending ((Command.render input).run Session.shell) (Session.start disk) = _ := ended
  rw [run_of_parse renders, unfolded, configurationOn_eq]
  rcases input.readOn disk with failure | ⟨options, part⟩
  · exact ⟨notices, rfl⟩
  · rcases ofOptions : Configuration.ofOptions options part with cause | configuration
    · exact ⟨notices, by simp only [ofOptions, Except.mapError]⟩
    · refine ⟨notices, ?_⟩
      simp only [ofOptions, Except.mapError]
      rfl

theorem run_generate {arguments : List Text} {json : Bool}
    (generates : parse arguments = some (.generate input json)) (disk : Disk) :
    ∃ notices, run arguments disk =
      match input.configurationOn disk with
      | .error failure => ⟨1, some failure, ⟨disk, [], notices⟩⟩
      | .ok configuration =>
          match placeOn configuration disk with
          | (.error failure, after) => ⟨1, some failure, ⟨after, [], notices⟩⟩
          | (.ok _, after) =>
              match reportText (configuration.report []) json with
              | some text => ⟨0, none, ⟨after, text, notices⟩⟩
              | none => ⟨1, some .reportNotText, ⟨after, [], notices⟩⟩ := by
  obtain ⟨notices, ended⟩ := ending_configured (fun found configuration => do
    let report ← configuration.deploy Session.shell.toHost
      (InstallRequest.all found.1 found.2 configuration.path)
    printReport Session.shell report json) input disk
  have unfolded : ending ((Command.generate input json).run Session.shell) (Session.start disk) = _ :=
    ended
  rw [run_of_parse generates, unfolded, configurationOn_eq]
  rcases input.readOn disk with failure | ⟨options, part⟩
  · exact ⟨notices, rfl⟩
  · rcases ofOptions : Configuration.ofOptions options part with cause | configuration
    · exact ⟨notices, by simp only [ofOptions, Except.mapError]⟩
    · -- The notices so far are those of the reading steps; the deployment adds its own.
      obtain ⟨notices, deployed⟩ := ending_deploy configuration
        (InstallRequest.all options part configuration.path) ⟨disk, [], notices⟩
      simp only [ofOptions, Except.mapError, ending_bind, deployed]
      rcases placeOn configuration disk with ⟨failure | _, after⟩
      · exact ⟨notices, rfl⟩
      · simp only [Except.map, ending_printReport]
        rcases reportText (configuration.report []) json with _ | text
        · exact ⟨notices, rfl⟩
        · exact ⟨notices, rfl⟩

/-- The ways in which putting a configuration in place can end. -/
inductive GenerateEnds (input : Input) (json : Bool) (disk : Disk) : Outcome → Prop
  | unconfigured {failure : Failure} {notices : List Notice} :
      input.configurationOn disk = .error failure →
      GenerateEnds input json disk ⟨1, some failure, ⟨disk, [], notices⟩⟩
  | unplaced {configuration : Configuration} {failure : Failure} {after : Disk}
      {notices : List Notice} : input.configurationOn disk = .ok configuration →
      placeOn configuration disk = (.error failure, after) →
      GenerateEnds input json disk ⟨1, some failure, ⟨after, [], notices⟩⟩
  | unreported {configuration : Configuration} {after : Disk} {notices : List Notice} :
      input.configurationOn disk = .ok configuration →
      placeOn configuration disk = (.ok (), after) →
      reportText (configuration.report []) json = none →
      GenerateEnds input json disk ⟨1, some .reportNotText, ⟨after, [], notices⟩⟩
  | reported {configuration : Configuration} {after : Disk} {text : Text} {notices : List Notice} :
      input.configurationOn disk = .ok configuration →
      placeOn configuration disk = (.ok (), after) →
      reportText (configuration.report []) json = some text →
      GenerateEnds input json disk ⟨0, none, ⟨after, text, notices⟩⟩

theorem generateEnds {arguments : List Text} {json : Bool}
    (generates : parse arguments = some (.generate input json)) (disk : Disk) :
    GenerateEnds input json disk (run arguments disk) := by
  obtain ⟨notices, ran⟩ := run_generate generates disk
  rw [ran]
  rcases configured : input.configurationOn disk with failure | configuration
  · exact .unconfigured configured
  · rcases placed : placeOn configuration disk with ⟨failure | _, after⟩
    · simp only [placed]
      exact .unplaced configured placed
    · rcases reported : reportText (configuration.report []) json with _ | text
      · simp only [placed, reported]
        exact .unreported configured placed reported
      · simp only [placed, reported]
        exact .reported configured placed reported

end CommandLine

end Supervision
