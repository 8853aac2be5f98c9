import Supervision.Deployment
import Supervision.Proofs.Configuration.Reading

/-!
The calls that a deployment makes of its host, whatever the host does: directories, then the
document, then what is to be installed, up to the first call that fails.
-/

namespace Supervision

open Text Outcome

inductive HostCall where
  | ensureDirectory (path : PathText)
  | replaceFile (path : PathText) (text : Text)
  | install (request : InstallRequest)
  deriving DecidableEq

/-- The calls of a deployment that nothing stops. -/
def Configuration.plan (configuration : Configuration) (requests : List InstallRequest) :
    List HostCall :=
  configuration.directories.map .ensureDirectory ++
    .replaceFile configuration.path configuration.text :: requests.map .install

def Configuration.report (configuration : Configuration) (installed : List PathText) : Report where
  configFile := configuration.path
  serverUrl := configuration.client.serverUrl
  directories := configuration.directories
  artifacts := installed ++ [configuration.path]

/-! A deployment performs its plan. -/

section

variable {Failure : Type} {m : Type → Type} [Monad m]

def Host.perform (host : Host Failure m) : HostCall → ExceptT Failure m (List PathText)
  | .ensureDirectory path => do
      host.ensureDirectory path
      return []
  | .replaceFile path text => do
      host.replaceFile path text
      host.note (.configWritten path)
      return []
  | .install request => host.install request

variable [LawfulMonad m] (host : Host Failure m)

theorem Host.mapM_ensureDirectory (directories : List PathText) :
    (directories.map HostCall.ensureDirectory).mapM host.perform = (do
      directories.forM host.ensureDirectory
      return directories.map fun _ => []) := by
  induction directories with
  | nil => simp
  | cons path directories ih => simp [perform, ih]

theorem Host.mapM_install (requests : List InstallRequest) :
    (requests.map HostCall.install).mapM host.perform = requests.mapM host.install := by
  induction requests with
  | nil => rfl
  | cons request requests ih => simp [perform, ih]

theorem Configuration.deploy_eq (configuration : Configuration) (requests : List InstallRequest) :
    configuration.deploy host requests = (do
      let outputs ← (configuration.plan requests).mapM host.perform
      return configuration.report outputs.flatten) := by
  rw [plan, List.mapM_append, Host.mapM_ensureDirectory, List.mapM_cons, Host.mapM_install]
  simp [deploy, report, Host.perform]

end

/-! Runs of calls, on a host that changes a world of its own. -/

section

variable {Failure World : Type}

def ending {α : Type} (step : ExceptT Failure (StateM World) α) (world : World) :
    Except Failure α × World :=
  (step.run.run world).run

theorem ending_bind {α β : Type} (step : ExceptT Failure (StateM World) α)
    (next : α → ExceptT Failure (StateM World) β) (world : World) :
    ending (step >>= next) world =
      match ending step world with
      | (.ok value, after) => ending (next value) after
      | (.error error, after) => (.error error, after) := by
  simp only [ending, ExceptT.run_bind, StateT.run_bind, Id.run_bind]
  rcases (step.run.run world).run with ⟨error | value, after⟩
  · rfl
  · rfl

/-- The step, which also adds a call to the record. -/
def recording {α : Type} (call : HostCall) (step : ExceptT Failure (StateM World) α) :
    ExceptT Failure (StateM (World × List HostCall)) α :=
  ExceptT.mk fun state =>
    let result := ending step state.1
    (result.1, (result.2, state.2 ++ [call]))

def Host.recorded (host : Host Failure (StateM World)) :
    Host Failure (StateM (World × List HostCall)) where
  ensureDirectory path := recording (.ensureDirectory path) (host.ensureDirectory path)
  replaceFile path text := recording (.replaceFile path text) (host.replaceFile path text)
  install request := recording (.install request) (host.install request)
  note notice := fun state =>
    let result := host.note notice state.1
    ((), (result.2, state.2))

theorem ending_recording_bind {α β : Type} {call : HostCall}
    {step : ExceptT Failure (StateM World) α} {next : α → ExceptT Failure (StateM World) β}
    {noted : α → ExceptT Failure (StateM (World × List HostCall)) β}
    (silent : ∀ value world made, ending (noted value) (world, made) =
      ((ending (next value) world).1, ((ending (next value) world).2, made)))
    (world : World) (before : List HostCall) :
    ending (recording call step >>= noted) (world, before) =
      ((ending (step >>= next) world).1, ((ending (step >>= next) world).2, before ++ [call])) := by
  have first : ending (recording call step) (world, before) =
      ((ending step world).1, ((ending step world).2, before ++ [call])) :=
    rfl
  rw [ending_bind, ending_bind, first]
  rcases ending step world with ⟨error | value, after⟩
  · rfl
  · exact silent value after _

namespace Host

variable {host : Host Failure (StateM World)}

theorem ending_perform_recorded (call : HostCall) (world : World) (before : List HostCall) :
    ending (host.recorded.perform call) (world, before) =
      ((ending (host.perform call) world).1,
        ((ending (host.perform call) world).2, before ++ [call])) := by
  cases call with
  | ensureDirectory path => exact ending_recording_bind (fun _ _ _ => rfl) world before
  | replaceFile path text => exact ending_recording_bind (fun _ _ _ => rfl) world before
  | install request => rfl

/-- The calls succeed one after the other, with these outputs and this world in the end. -/
inductive Performs (host : Host Failure (StateM World)) :
    World → List HostCall → List (List PathText) → World → Prop
  | nil {world : World} : Performs host world [] [] world
  | cons {world next after : World} {call : HostCall} {calls : List HostCall} {output : List PathText}
      {outputs : List (List PathText)} : ending (host.perform call) world = (.ok output, next) →
      Performs host next calls outputs after →
      Performs host world (call :: calls) (output :: outputs) after

/-- The calls `done` succeed, and the one that is next fails. -/
def FailsAt (host : Host Failure (StateM World)) (world : World) (calls done : List HostCall)
    (call : HostCall) (error : Failure) (after : World) : Prop :=
  ∃ rest outputs next, calls = done ++ call :: rest ∧ host.Performs world done outputs next ∧
    ending (host.perform call) next = (.error error, after)

theorem ending_mapM_cons {α β : Type} (step : α → ExceptT Failure (StateM World) β) (item : α)
    (items : List α) (world : World) :
    ending ((item :: items).mapM step) world =
      match ending (step item) world with
      | (.ok value, next) =>
          ((ending (items.mapM step) next).1.map (value :: ·), (ending (items.mapM step) next).2)
      | (.error error, after) => (.error error, after) := by
  rw [List.mapM_cons, ending_bind]
  rcases ending (step item) world with ⟨error | value, next⟩
  · rfl
  · simp only [ending_bind]
    rcases ending (items.mapM step) next with ⟨error | values, after⟩
    · rfl
    · rfl

theorem ending_mapM_perform (host : Host Failure (StateM World)) (calls : List HostCall)
    (world : World) (before : List HostCall) :
    ending (calls.mapM host.perform) world =
      ((ending (calls.mapM host.recorded.perform) (world, before)).1,
        (ending (calls.mapM host.recorded.perform) (world, before)).2.1) := by
  induction calls generalizing world before with
  | nil => rfl
  | cons call calls ih =>
      rw [ending_mapM_cons, ending_mapM_cons, ending_perform_recorded]
      rcases ending (host.perform call) world with ⟨error | output, next⟩
      · rfl
      · simp only [ih next (before ++ [call])]

theorem ending_mapM_eq_ok_iff {calls before made : List HostCall} {world after : World}
    {outputs : List (List PathText)} :
    ending (calls.mapM host.recorded.perform) (world, before) = (.ok outputs, (after, made)) ↔
      host.Performs world calls outputs after ∧ made = before ++ calls := by
  -- The record before the calls grows by the one that is made.
  induction calls generalizing world before outputs with
  | nil =>
      constructor
      · intro ended
        cases ended
        exact ⟨.nil, (List.append_nil _).symm⟩
      · rintro ⟨⟨⟩, rfl⟩
        rw [List.append_nil]
        rfl
  | cons call calls ih =>
      rw [ending_mapM_cons, ending_perform_recorded]
      constructor
      · intro ended
        rcases first : ending (host.perform call) world with ⟨error | output, next⟩
        · simp [first] at ended
        · rcases later : ending (calls.mapM host.recorded.perform) (next, before ++ [call]) with
            ⟨error | rest, final, record⟩
          · simp [first, later, Except.map] at ended
          · simp only [first, later, Except.map, Prod.mk.injEq, Except.ok.injEq] at ended
            obtain ⟨rfl, rfl, rfl⟩ := ended
            obtain ⟨performs, rfl⟩ := ih.mp later
            exact ⟨.cons first performs, List.append_assoc _ _ _⟩
      · rintro ⟨performs, rfl⟩
        cases performs with
        | cons first later =>
            have ended := ih.mpr ⟨later, (List.append_assoc before [call] calls).symm⟩
            simp only [first, ended]
            rfl

theorem ending_mapM_eq_error_iff {calls before made : List HostCall} {world after : World}
    {error : Failure} :
    ending (calls.mapM host.recorded.perform) (world, before) = (.error error, (after, made)) ↔
      ∃ done call, host.FailsAt world calls done call error after ∧
        made = before ++ (done ++ [call]) := by
  induction calls generalizing world before with
  | nil =>
      constructor
      · intro ended
        cases ended
      · rintro ⟨done, call, ⟨rest, _, _, equal, _⟩, _⟩
        simp at equal
  | cons first calls ih =>
      rw [ending_mapM_cons, ending_perform_recorded]
      constructor
      · intro ended
        rcases begun : ending (host.perform first) world with ⟨failure | output, next⟩
        · simp only [begun, Prod.mk.injEq, Except.error.injEq] at ended
          obtain ⟨rfl, rfl, rfl⟩ := ended
          exact ⟨[], first, ⟨calls, [], world, rfl, .nil, begun⟩, rfl⟩
        · rcases later : ending (calls.mapM host.recorded.perform) (next, before ++ [first]) with
            ⟨failure | outputs, final, record⟩
          · simp only [begun, later, Except.map, Prod.mk.injEq, Except.error.injEq] at ended
            obtain ⟨rfl, rfl, rfl⟩ := ended
            obtain ⟨done, call, ⟨rest, outputs, middle, rfl, performs, fails⟩, rfl⟩ := ih.mp later
            exact ⟨first :: done, call,
              ⟨rest, output :: outputs, middle, rfl, .cons begun performs, fails⟩,
              List.append_assoc _ _ _⟩
          · simp [begun, later, Except.map] at ended
      · rintro ⟨done, call, ⟨rest, outputs, middle, equal, performs, fails⟩, rfl⟩
        cases performs with
        | nil =>
            obtain ⟨rfl, rfl⟩ := List.cons.inj equal
            simp only [fails, List.nil_append]
        | @cons _ next _ earlier done output outputs begun performs =>
            obtain ⟨rfl, rfl⟩ := List.cons.inj equal
            have ended := ih.mpr ⟨done, call, ⟨rest, outputs, middle, rfl, performs, fails⟩,
              (List.append_assoc before [first] _).symm⟩
            simp only [begun, ended]
            rfl

theorem performs_append_iff {first second : List HostCall} {world after : World}
    {outputs : List (List PathText)} :
    host.Performs world (first ++ second) outputs after ↔
      ∃ early late next, outputs = early ++ late ∧ host.Performs world first early next ∧
        host.Performs next second late after := by
  induction first generalizing world outputs with
  | nil =>
      constructor
      · intro performs
        exact ⟨[], outputs, world, rfl, .nil, performs⟩
      · rintro ⟨early, late, next, rfl, ⟨⟩, performs⟩
        exact performs
  | cons call first ih =>
      constructor
      · intro performs
        cases performs with
        | cons begun later =>
            obtain ⟨early, late, next, rfl, before, rest⟩ := ih.mp later
            exact ⟨_ :: early, late, next, rfl, .cons begun before, rest⟩
      · rintro ⟨early, late, next, rfl, before, rest⟩
        cases before with
        | cons begun before => exact .cons begun (ih.mpr ⟨_, _, next, rfl, before, rest⟩)

theorem performs_of_made {calls front back : List HostCall} {call : HostCall} {world : World}
    (made : (ending (calls.mapM host.recorded.perform) (world, [])).2.2 = front ++ call :: back) :
    ∃ outputs next, host.Performs world front outputs next := by
  rcases ended : ending (calls.mapM host.recorded.perform) (world, []) with
    ⟨error | outputs, after, record⟩
  · obtain ⟨done, last, ⟨rest, outputs, next, -, performs, -⟩, rfl⟩ :=
      ending_mapM_eq_error_iff.mp ended
    rw [ended] at made
    have both : done ++ [last] = front ++ call :: back := made
    have counted := congrArg List.length both
    simp only [List.length_append, List.length_cons, List.length_nil] at counted
    -- What comes before a call that was made comes before the last one, and only that one failed.
    have beforeLast : front <+: done :=
      List.prefix_of_prefix_length_le ⟨call :: back, both.symm⟩ ⟨[last], rfl⟩ (by omega)
    obtain ⟨others, rfl⟩ := beforeLast
    obtain ⟨early, -, middle, -, before, -⟩ := performs_append_iff.mp performs
    exact ⟨early, middle, before⟩
  · obtain ⟨performs, whole⟩ := ending_mapM_eq_ok_iff.mp ended
    rw [ended] at made
    have both : calls = front ++ call :: back := whole.symm.trans made
    rw [both] at performs
    obtain ⟨early, -, middle, -, before, -⟩ := performs_append_iff.mp performs
    exact ⟨early, middle, before⟩

theorem made_prefix (host : Host Failure (StateM World)) (calls : List HostCall) (world : World) :
    (ending (calls.mapM host.recorded.perform) (world, [])).2.2 <+: calls := by
  rcases ended : ending (calls.mapM host.recorded.perform) (world, []) with
    ⟨error | outputs, after, record⟩
  · obtain ⟨done, last, ⟨rest, -, -, rfl, -⟩, rfl⟩ := ending_mapM_eq_error_iff.mp ended
    exact ⟨rest, by simp⟩
  · obtain ⟨-, whole⟩ := ending_mapM_eq_ok_iff.mp ended
    exact ⟨[], (List.append_nil _).trans whole⟩

theorem Performs.outputs_ensureDirectory {directories : List PathText} {world after : World}
    {outputs : List (List PathText)}
    (performs : host.Performs world (directories.map HostCall.ensureDirectory) outputs after) :
    outputs = directories.map fun _ => [] := by
  induction directories generalizing world outputs with
  | nil =>
      cases performs
      rfl
  | cons path directories ih =>
      cases performs with
      | cons begun later =>
          rw [perform, ending_bind] at begun
          split at begun
          · cases begun
            rw [ih later, List.map_cons]
          · cases begun

end Host

end

end Supervision
