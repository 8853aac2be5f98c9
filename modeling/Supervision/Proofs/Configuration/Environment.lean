import Supervision.Proofs.Configuration.Access
import Supervision.Proofs.Record.Settings
import Supervision.Reader.Repeat

/-!
The environment of an event listener: how the daemon is reached, each value in quotes, and then the
environment of the line. It can be read back unless there is a quote in one of the values.
-/

namespace Supervision

open Text Reader Outcome

/-! What is written. -/

def assignment (name value : Text) : Text :=
  name ++ "='".toList ++ value ++ ['\'']

namespace ControlClient

def environment (client : ControlClient) : Text :=
  joinWith [','] [assignment "SUPERVISOR_USERNAME" client.username,
    assignment "SUPERVISOR_PASSWORD" client.password,
    assignment "SUPERVISOR_SERVER_URL" client.serverUrl]

def quotes (client : ControlClient) : Nat :=
  client.username.count '\'' + client.password.count '\'' + client.serverUrl.count '\''

def Unquoted (client : ControlClient) : Prop :=
  '\'' ∉ client.username ∧ '\'' ∉ client.password ∧ '\'' ∉ client.serverUrl

instance (client : ControlClient) : Decidable client.Unquoted :=
  inferInstanceAs (Decidable (_ ∧ _))

theorem unquoted_iff_quotes {client : ControlClient} : client.Unquoted ↔ client.quotes = 0 := by
  rw [quotes, Unquoted, ← List.count_eq_zero, ← List.count_eq_zero, ← List.count_eq_zero]
  omega

theorem environment_eq (client : ControlClient) :
    client.environment = assignment "SUPERVISOR_USERNAME" client.username ++ ([','] ++
      (assignment "SUPERVISOR_PASSWORD" client.password ++ ([','] ++
        assignment "SUPERVISOR_SERVER_URL" client.serverUrl))) := by
  simp only [environment, joinWith, List.intercalate_cons_cons, List.intercalate_singleton,
    List.append_assoc]

/-- Around the values there are always the same quotes. -/
theorem quotes_eq_of_environment_eq {client other : ControlClient}
    (same : other.environment = client.environment) : other.quotes = client.quotes := by
  have counts := congrArg (List.count '\'') same
  simp only [environment_eq, assignment, List.count_append] at counts
  unfold quotes
  omega

end ControlClient

namespace EventListener

def ownEnvironment (listener : EventListener) : Text :=
  match listener.extras.get? "environment" with
  | some own => ',' :: own
  | none => []

theorem environment_eq_append (listener : EventListener) (client : ControlClient) :
    listener.environment client = client.environment ++ listener.ownEnvironment := by
  have first : "SUPERVISOR_USERNAME='".toList = "SUPERVISOR_USERNAME".toList ++ "='".toList := rfl
  have second : "',SUPERVISOR_PASSWORD='".toList =
      ['\''] ++ ([','] ++ ("SUPERVISOR_PASSWORD".toList ++ "='".toList)) := rfl
  have third : "',SUPERVISOR_SERVER_URL='".toList =
      ['\''] ++ ([','] ++ ("SUPERVISOR_SERVER_URL".toList ++ "='".toList)) := rfl
  unfold environment ownEnvironment
  rw [ControlClient.environment_eq, assignment, assignment, assignment, first, second, third]
  generalize listener.extras.get? "environment".toList = own
  cases own with
  | none => simp only [List.append_assoc, List.append_nil]
  | some own => simp only [List.append_assoc]

theorem valuesUnder_environment (listener : EventListener) (client : ControlClient) :
    valuesUnder "environment" (listener.toSection client).entries =
      [client.environment ++ listener.ownEnvironment] := by
  rw [valuesUnder, listener.filter_environment, List.map_singleton, environment_eq_append]

end EventListener

/-! Reading it back. -/

namespace Reader

theorem exactly_eq_some_iff {mark text rest : Text} :
    exactly mark text = some ((), rest) ↔ text = mark ++ rest := by
  induction mark generalizing text with
  | nil => simp [exactly, pure_eq_some_iff]
  | cons c mark ih =>
      rw [exactly, bind_eq_some_iff]
      cases text with
      | nil => simp [char]
      | cons d text =>
          by_cases same : d = c
          · simp [char, same, ih]
          · simp [char, same]

def assigned (name : Text) : Reader Text := do
  exactly (name ++ "='".toList)
  splitOnce '\''

def controlClient : Reader ControlClient := do
  let username ← assigned "SUPERVISOR_USERNAME"
  exactly [',']
  let password ← assigned "SUPERVISOR_PASSWORD"
  exactly [',']
  let serverUrl ← assigned "SUPERVISOR_SERVER_URL"
  return { serverUrl, username, password }

theorem assigned_eq_some_iff {name text value rest : Text} :
    assigned name text = some (value, rest) ↔
      '\'' ∉ value ∧ text = assignment name value ++ rest := by
  rw [assigned, bind_eq_some_iff]
  constructor
  · rintro ⟨_, middle, marked, cut⟩
    obtain ⟨absent, rfl⟩ := splitOnce_eq_some_iff.mp cut
    rw [exactly_eq_some_iff.mp marked]
    exact ⟨absent, by simp [assignment]⟩
  · rintro ⟨absent, rfl⟩
    exact ⟨(), value ++ '\'' :: rest, exactly_eq_some_iff.mpr (by simp [assignment]),
      splitOnce_eq_some_iff.mpr ⟨absent, rfl⟩⟩

theorem controlClient_eq_some_iff {text rest : Text} {client : ControlClient} :
    controlClient text = some (client, rest) ↔
      client.Unquoted ∧ text = client.environment ++ rest := by
  simp only [controlClient, bind_eq_some_iff, pure_eq_some_iff, assigned_eq_some_iff,
    ControlClient.environment_eq, List.append_assoc]
  constructor
  · rintro ⟨username, _, ⟨usernameClosed, rfl⟩, _, _, first, password, _, ⟨passwordClosed, rfl⟩,
      _, _, second, serverUrl, _, ⟨serverUrlClosed, rfl⟩, rfl, rfl⟩
    obtain rfl := exactly_eq_some_iff.mp first
    obtain rfl := exactly_eq_some_iff.mp second
    exact ⟨⟨usernameClosed, passwordClosed, serverUrlClosed⟩, rfl⟩
  · rintro ⟨⟨usernameClosed, passwordClosed, serverUrlClosed⟩, rfl⟩
    exact ⟨client.username, _, ⟨usernameClosed, rfl⟩, (), _, exactly_eq_some_iff.mpr rfl,
      client.password, _, ⟨passwordClosed, rfl⟩, (), _, exactly_eq_some_iff.mpr rfl,
      client.serverUrl, rest, ⟨serverUrlClosed, rfl⟩, rfl, rfl⟩

end Reader

/-- The user name, the password and the address are read back from the environment of a listener,
and what is left is the environment of its line after a comma, exactly when there is no quote in
any of the three. No other control client than such a one gives a listener the same environment. -/
theorem environment_read_back (listener : EventListener) (client : ControlClient) :
    (client.Unquoted ↔ ∃ value,
      valuesUnder "environment" (listener.toSection client).entries = [value] ∧
        Reader.controlClient value = some (client, listener.ownEnvironment)) ∧
    (client.Unquoted → ∀ other : ControlClient,
      valuesUnder "environment" (listener.toSection other).entries =
        valuesUnder "environment" (listener.toSection client).entries → other = client) := by
  simp only [EventListener.valuesUnder_environment, List.cons.injEq, and_true, exists_eq_left']
  constructor
  · constructor
    · intro unquoted
      exact controlClient_eq_some_iff.mpr ⟨unquoted, rfl⟩
    · intro read
      exact (controlClient_eq_some_iff.mp read).1
  · intro unquoted other same
    have environments : other.environment = client.environment := List.append_cancel_right same
    -- The other client has as many quotes in its values, so that both can be read back.
    have otherUnquoted : other.Unquoted := by
      rw [ControlClient.unquoted_iff_quotes] at unquoted ⊢
      rw [ControlClient.quotes_eq_of_environment_eq environments, unquoted]
    have read : controlClient client.environment = some (client, []) :=
      controlClient_eq_some_iff.mpr ⟨unquoted, (List.append_nil _).symm⟩
    have otherRead : controlClient client.environment = some (other, []) :=
      controlClient_eq_some_iff.mpr ⟨otherUnquoted, by rw [environments, List.append_nil]⟩
    rw [read, Option.some.injEq, Prod.mk.injEq] at otherRead
    exact otherRead.1.symm

theorem environment_read_back_before_own :
    let listener : EventListener :=
      ⟨"watch", "TICK_60", "./watch", none, Extras.parse "environment=SUPERVISOR_USERNAME='x',A="⟩
    let client : ControlClient := ⟨"http://localhost:80", "ad,min=\"", []⟩
    (∃ value, valuesUnder "environment" (listener.toSection client).entries = [value] ∧
      Reader.controlClient value = some (client, ",SUPERVISOR_USERNAME='x',A=".toList)) ∧
    ∀ other : ControlClient, valuesUnder "environment" (listener.toSection other).entries =
      valuesUnder "environment" (listener.toSection client).entries → other = client := by
  intro listener client
  have unquoted : client.Unquoted := by decide
  have own : listener.ownEnvironment = ",SUPERVISOR_USERNAME='x',A=".toList := by decide +kernel
  obtain ⟨readBack, alone⟩ := environment_read_back listener client
  rw [own] at readBack
  exact ⟨readBack.mp unquoted, alone unquoted⟩

/-- With a quote in the user name something else is read, and two control clients can give a
listener the same environment: the options that they come from give the same document. -/
theorem exists_environment_misread :
    let options := fun user password : Text => Options.ofList [
      ("eventlisteners".toList, "watch TICK_60 ./watch".toList), ("sections".toList, []),
      ("user".toList, user), ("password".toList, password)]
    (∃ configuration,
      Configuration.ofOptions (options "it's" []) ⟨"/srv", "main"⟩ = .ok configuration ∧
      ∃ block ∈ configuration.document.sections, block.header = "eventlistener:watch".toList ∧
        ∀ value ∈ valuesUnder "environment" block.entries,
          (Reader.controlClient value).map Prod.fst ≠ some configuration.client) ∧
    ∃ configuration other,
      Configuration.ofOptions (options "x',SUPERVISOR_PASSWORD='y" "z") ⟨"/srv", "main"⟩ =
        .ok configuration ∧
      Configuration.ofOptions (options "x" "y',SUPERVISOR_PASSWORD='z") ⟨"/srv", "main"⟩ =
        .ok other ∧
      other.client ≠ configuration.client ∧ other.document = configuration.document := by
  intro options
  constructor
  · obtain ⟨configuration, generated, misread⟩ : ∃ configuration,
        Configuration.ofOptions (options "it's" []) ⟨"/srv", "main"⟩ = .ok configuration ∧
        decide (∃ block ∈ configuration.document.sections,
          block.header = "eventlistener:watch".toList ∧
            ∀ value ∈ valuesUnder "environment" block.entries,
              (Reader.controlClient value).map Prod.fst ≠ some configuration.client) = true :=
      exists_eq_ok_of_any (by decide +kernel)
    exact ⟨configuration, generated, of_decide_eq_true misread⟩
  · obtain ⟨configuration, generated, otherMade⟩ : ∃ configuration,
        Configuration.ofOptions (options "x',SUPERVISOR_PASSWORD='y" "z") ⟨"/srv", "main"⟩ =
          .ok configuration ∧
        ((Configuration.ofOptions (options "x" "y',SUPERVISOR_PASSWORD='z")
          ⟨"/srv", "main"⟩).toOption.any fun other => decide
            (other.client ≠ configuration.client ∧ other.document = configuration.document)) =
          true :=
      exists_eq_ok_of_any (by decide +kernel)
    obtain ⟨other, generatedOther, alike⟩ := exists_eq_ok_of_any otherMade
    exact ⟨configuration, other, generated, generatedOther, of_decide_eq_true alike⟩

end Supervision
