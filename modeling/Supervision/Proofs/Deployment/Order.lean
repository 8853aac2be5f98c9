import Supervision.Proofs.Deployment.Calls

/-!
In which order a deployment has its effects: every directory before the document, and the document
before anything is installed, each of them only after all before it succeeded.
-/

namespace Supervision

open Text Outcome

/-! Places in a plan. -/

theorem eq_of_append_cons_eq {α : Type} {before after front back : List α} {middle item : α}
    (same : before ++ middle :: after = front ++ item :: back) (notBefore : item ∉ before)
    (notAfter : item ∉ after) : front = before ∧ middle = item ∧ after = back := by
  rcases List.append_eq_append_iff.mp same with ⟨others, rfl, equal⟩ | ⟨others, rfl, equal⟩
  · cases others with
    | nil =>
        obtain ⟨rfl, rfl⟩ := List.cons.inj equal
        exact ⟨List.append_nil _, rfl, rfl⟩
    | cons first others =>
        obtain ⟨rfl, rfl⟩ := List.cons.inj equal
        exact absurd (by simp) notAfter
  · cases others with
    | nil =>
        obtain ⟨rfl, rfl⟩ := List.cons.inj equal
        exact ⟨(List.append_nil _).symm, rfl, rfl⟩
    | cons first others =>
        obtain ⟨rfl, rfl⟩ := List.cons.inj equal
        exact absurd (by simp) notBefore

namespace Configuration

variable {configuration : Configuration} {requests : List InstallRequest}

theorem front_of_replaceFile {front back : List HostCall} {path : PathText} {text : Text}
    (place : configuration.plan requests = front ++ .replaceFile path text :: back) :
    front = configuration.directories.map .ensureDirectory ∧ path = configuration.path ∧
      text = configuration.text := by
  obtain ⟨equal, same, -⟩ := eq_of_append_cons_eq place (by simp) (by simp)
  obtain ⟨rfl, rfl⟩ := HostCall.replaceFile.inj same
  exact ⟨equal, rfl, rfl⟩

theorem front_of_install {front back : List HostCall} {request : InstallRequest}
    (place : configuration.plan requests = front ++ .install request :: back) :
    ∃ earlier later, requests = earlier ++ request :: later ∧
      front = configuration.directories.map .ensureDirectory ++
        .replaceFile configuration.path configuration.text :: earlier.map .install := by
  have notDirectory : HostCall.install request ∉
      configuration.directories.map HostCall.ensureDirectory := by simp
  rcases List.append_eq_append_iff.mp place with ⟨others, rfl, equal⟩ | ⟨others, split, equal⟩
  · cases others with
    | nil => cases (List.cons.inj equal).1
    | cons first others =>
        obtain ⟨rfl, installs⟩ := List.cons.inj equal
        obtain ⟨earlier, rest, rfl, rfl, onwards⟩ := List.map_eq_append_iff.mp installs
        obtain ⟨found, later, rfl, same, -⟩ := List.map_eq_cons_iff.mp onwards
        obtain rfl := HostCall.install.inj same
        exact ⟨earlier, later, rfl, rfl⟩
  · cases others with
    | nil => cases (List.cons.inj equal).1
    | cons first others =>
        obtain ⟨rfl, -⟩ := List.cons.inj equal
        exact absurd (split ▸ by simp) notDirectory

variable {Failure World : Type} {host : Host Failure (StateM World)}

theorem ending_deploy (configuration : Configuration) (requests : List InstallRequest)
    (host : Host Failure (StateM World)) (world : World) :
    ending (configuration.deploy host requests) world =
      ((ending ((configuration.plan requests).mapM host.perform) world).1.map
          fun outputs => configuration.report outputs.flatten,
        (ending ((configuration.plan requests).mapM host.perform) world).2) := by
  rw [deploy_eq, ending_bind]
  rcases ending ((configuration.plan requests).mapM host.perform) world with
    ⟨error | outputs, after⟩
  · rfl
  · rfl

theorem outputs_of_performs_plan {world after : World} {outputs : List (List PathText)}
    (performs : host.Performs world (configuration.plan requests) outputs after) :
    ∃ installed, outputs = (configuration.directories.map fun _ => []) ++ [] :: installed := by
  obtain ⟨early, late, next, rfl, directories, rest⟩ := Host.performs_append_iff.mp performs
  obtain rfl := directories.outputs_ensureDirectory
  cases rest with
  | cons begun later =>
      rw [Host.perform, ending_bind] at begun
      split at begun
      · cases begun
        exact ⟨_, rfl⟩
      · cases begun

theorem ending_deploy_recorded (configuration : Configuration) (requests : List InstallRequest)
    (host : Host Failure (StateM World)) (world : World) :
    ending (configuration.deploy host requests) world =
      ((ending (configuration.deploy host.recorded requests) (world, [])).1,
        (ending (configuration.deploy host.recorded requests) (world, [])).2.1) := by
  rw [ending_deploy, ending_deploy, host.ending_mapM_perform _ world []]

theorem ending_deploy_eq_error_iff {world after : World} {made : List HostCall} {error : Failure} :
    ending (configuration.deploy host.recorded requests) (world, []) =
        (.error error, (after, made)) ↔
      ∃ done call, host.FailsAt world (configuration.plan requests) done call error after ∧
        made = done ++ [call] := by
  rw [ending_deploy]
  constructor
  · intro ended
    rcases ran : ending ((configuration.plan requests).mapM host.recorded.perform) (world, []) with
      ⟨failure | outputs, final, record⟩
    · rw [ran] at ended
      cases ended
      exact Host.ending_mapM_eq_error_iff.mp ran
    · rw [ran] at ended
      cases ended
  · intro fails
    rw [Host.ending_mapM_eq_error_iff.mpr fails]
    rfl

theorem ending_deploy_eq_ok_iff {world after : World} {made : List HostCall} {report : Report} :
    ending (configuration.deploy host.recorded requests) (world, []) =
        (.ok report, (after, made)) ↔
      ∃ installed, host.Performs world (configuration.plan requests)
          ((configuration.directories.map fun _ => []) ++ [] :: installed) after ∧
        made = configuration.plan requests ∧ report = configuration.report installed.flatten := by
  rw [ending_deploy]
  constructor
  · intro ended
    rcases ran : ending ((configuration.plan requests).mapM host.recorded.perform) (world, []) with
      ⟨failure | outputs, final, record⟩
    · rw [ran] at ended
      cases ended
    · rw [ran] at ended
      cases ended
      obtain ⟨performs, whole⟩ := Host.ending_mapM_eq_ok_iff.mp ran
      obtain ⟨installed, rfl⟩ := outputs_of_performs_plan performs
      exact ⟨installed, performs, whole, by simp⟩
  · rintro ⟨installed, performs, rfl, rfl⟩
    rw [Host.ending_mapM_eq_ok_iff.mpr ⟨performs, rfl⟩]
    simp [Except.map]

theorem made_deploy (configuration : Configuration) (requests : List InstallRequest)
    (host : Host Failure (StateM World)) (world : World) :
    (ending (configuration.deploy host.recorded requests) (world, [])).2.2 =
      (ending ((configuration.plan requests).mapM host.recorded.perform) (world, [])).2.2 := by
  rw [ending_deploy]

theorem launchers_all (options : Options) (part : Part) (path : PathText) :
    (InstallRequest.all options part path).filterMap InstallRequest.launcher = [
      ⟨part.name ++ ['d'], "supervisord", .trailing path⟩,
      ⟨"memmon", "memmon", .absent⟩,
      ⟨part.name ++ "ctl".toList, "supervisorctl", .leading path⟩] := by
  unfold InstallRequest.all
  split <;> rfl

/-- Whatever the host does, the calls of a deployment are made in the order of its plan up to the
first that fails, whose error is that of the deployment. When none fails, the report lists the
directories and the files installed. The document is replaced only after every directory is there,
something is installed only after the document is, and the launchers pass the path of that very
document. -/
theorem deploy_calls {options : Options} {part : Part}
    (generated : Configuration.ofOptions options part = .ok configuration)
    (host : Host Failure (StateM World)) (world : World) :
    let requests := InstallRequest.all options part configuration.path
    let plan := configuration.plan requests
    let run := ending (configuration.deploy host.recorded requests) (world, [])
    ending (configuration.deploy host requests) world = (run.1, run.2.1) ∧
    run.2.2 <+: plan ∧
    (∀ error after made, run = (.error error, (after, made)) ↔
      ∃ done call, host.FailsAt world plan done call error after ∧ made = done ++ [call]) ∧
    (∀ report after made, run = (.ok report, (after, made)) ↔
      ∃ installed, host.Performs world plan
          ((configuration.directories.map fun _ => []) ++ [] :: installed) after ∧
        made = plan ∧ report = configuration.report installed.flatten) ∧
    (∀ front call back, run.2.2 = front ++ call :: back →
      ∃ outputs next, host.Performs world front outputs next) ∧
    (∀ front path text back, run.2.2 = front ++ .replaceFile path text :: back →
      front = configuration.directories.map .ensureDirectory ∧ path = configuration.path ∧
        text = configuration.text) ∧
    (∀ front request back, run.2.2 = front ++ .install request :: back →
      ∃ earlier later, requests = earlier ++ request :: later ∧
        front = configuration.directories.map .ensureDirectory ++
          .replaceFile configuration.path configuration.text :: earlier.map .install) ∧
    configuration.path = part.configPath options ∧
    requests.filterMap InstallRequest.launcher = [
      ⟨part.name ++ ['d'], "supervisord", .trailing configuration.path⟩,
      ⟨"memmon", "memmon", .absent⟩,
      ⟨part.name ++ "ctl".toList, "supervisorctl", .leading configuration.path⟩] := by
  intro requests plan run
  have made : run.2.2 = (ending (plan.mapM host.recorded.perform) (world, [])).2.2 :=
    made_deploy configuration requests host world
  have planned : run.2.2 <+: plan := made ▸ host.made_prefix plan world
  refine ⟨ending_deploy_recorded configuration requests host world, planned,
    fun _ _ _ => ending_deploy_eq_error_iff, fun _ _ _ => ending_deploy_eq_ok_iff, ?_, ?_, ?_, ?_,
    launchers_all options part configuration.path⟩
  · intro front call back place
    exact Host.performs_of_made (made.symm.trans place)
  · intro front path text back place
    obtain ⟨rest, whole⟩ := planned
    rw [place, List.append_assoc] at whole
    exact front_of_replaceFile whole.symm
  · intro front request back place
    obtain ⟨rest, whole⟩ := planned
    rw [place, List.append_assoc] at whole
    exact front_of_install whole.symm
  · obtain ⟨_, _, -, -, rfl⟩ := Configuration.ofOptions_eq_ok_iff.mp generated
    rfl

/-- A host that installs launchers but no further packages stops a deployment at its last call. -/
theorem deploy_calls_with_refusal :
    let options := Options.ofList [("plugins".toList, "extra".toList)]
    let part : Part := ⟨"/srv", "main"⟩
    let host : Host Text (StateM Unit) := {
      ensureDirectory := fun _ => pure ()
      replaceFile := fun _ _ => pure ()
      install := fun request =>
        if request.launcher.isSome then pure [] else throw "no such package".toList
      note := fun _ => pure () }
    ∃ configuration, Configuration.ofOptions options part = .ok configuration ∧
      let requests := InstallRequest.all options part configuration.path
      ∃ done call, host.FailsAt () (configuration.plan requests) done call
          "no such package".toList () ∧
        (ending (configuration.deploy host.recorded requests) ((), [])).2.2 = done ++ [call] := by
  intro options part host
  obtain ⟨configuration, generated, refused⟩ : ∃ configuration,
      Configuration.ofOptions options part = .ok configuration ∧
        decide ((ending (configuration.deploy host.recorded
          (InstallRequest.all options part configuration.path)) ((), [])).1 =
            .error "no such package".toList) = true :=
    exists_eq_ok_of_any (by decide +kernel)
  obtain ⟨-, -, stops, -⟩ := deploy_calls generated host ()
  obtain ⟨done, call, fails, made⟩ :=
    (stops _ () _).mp (Prod.ext (of_decide_eq_true refused) rfl)
  exact ⟨configuration, generated, done, call, fails, made⟩

end Configuration

end Supervision
