import Supervision.Proofs.Configuration.Sections
import Supervision.Proofs.Options.Agreement

/-!
How the daemon is reached: its server, the control client and the environments of the event
listeners all have it from the same options.
-/

namespace Supervision

open Text Outcome

/-! What the options say. -/

namespace Options

def username (options : Options) : Text :=
  options.getD "user" ""

def password (options : Options) : Text :=
  options.getD "password" ""

def port (options : Options) : Text :=
  options.getD "port" "127.0.0.1:9001"

def socketFile (options : Options) : Text :=
  options.getD "file" ""

def serverSection (options : Options) : Ini.Section :=
  if options.OnUnixSocket then
    ⟨"unix_http_server", [("file", options.socketFile), ("username", options.username),
      ("password", options.password), ("chmod", options.getD "chmod" "0700")]⟩
  else
    ⟨"inet_http_server", [("port", options.port), ("username", options.username),
      ("password", options.password)]⟩

/-- The `serverurl` option as it is, else where the server listens. -/
def accessUrl (options : Options) : Text :=
  match options.get? "serverurl" with
  | some url => url
  | none =>
      if options.OnUnixSocket then "unix://".toList ++ options.socketFile
      else if ':' ∈ options.port then "http://".toList ++ options.port
      else "http://localhost:".toList ++ options.port

def accessEnvironment (options : Options) (own : Option Text) : Text :=
  "SUPERVISOR_USERNAME='".toList ++ options.username ++ "',SUPERVISOR_PASSWORD='".toList ++
    options.password ++ "',SUPERVISOR_SERVER_URL='".toList ++ options.accessUrl ++ ['\''] ++
    match own with
    | some own => ',' :: own
    | none => []

end Options

variable {options : Options} {transport : Transport}

theorem Transport.httpSection_eq (resolved : Transport.resolve options = .ok transport) :
    transport.httpSection = options.serverSection := by
  rw [Transport.eq_of_resolve resolved, Options.serverSection]
  split <;> rfl

theorem Transport.serverUrl_eq (resolved : Transport.resolve options = .ok transport) :
    transport.serverUrl =
      if options.OnUnixSocket then "unix://".toList ++ options.socketFile
      else if ':' ∈ options.port then "http://".toList ++ options.port
      else "http://localhost:".toList ++ options.port := by
  rw [Transport.eq_of_resolve resolved, Transport.serverUrl]
  by_cases unix : options.OnUnixSocket
  · simp only [if_pos unix]
    rfl
  · simp only [if_neg unix, List.contains_iff_mem]
    rfl

theorem ControlClient.resolve_eq (resolved : Transport.resolve options = .ok transport) :
    ControlClient.resolve options transport =
      ⟨options.accessUrl, options.username, options.password⟩ := by
  rw [ControlClient.resolve, Options.getD, Transport.serverUrl_eq resolved,
    Transport.eq_of_resolve resolved, Options.accessUrl]
  cases options.get? "serverurl".toList <;> rfl

/-! Sections that show it. -/

@[simp] theorem Daemon.header_daemonSection (daemon : Daemon) :
    daemon.daemonSection.header = "supervisord".toList :=
  rfl

@[simp] theorem ControlClient.header_clientSection (client : ControlClient) :
    client.clientSection.header = "supervisorctl".toList :=
  rfl

@[simp] theorem Plugin.header_controlSection (plugin : Plugin) :
    plugin.controlSection.header = "ctlplugin:".toList ++ plugin.name :=
  rfl

@[simp] theorem Plugin.header_rpcSection (plugin : Plugin) :
    plugin.rpcSection.header = "rpcinterface:".toList ++ plugin.name :=
  rfl

@[simp] theorem Program.header_toSection (program : Program) (limits : LogLimits) :
    (program.toSection limits).header = "program:".toList ++ program.name :=
  rfl

@[simp] theorem EventListener.header_toSection (listener : EventListener) (client : ControlClient) :
    (listener.toSection client).header = "eventlistener:".toList ++ listener.name :=
  rfl

@[simp] theorem Group.header_toSection (group : Group) :
    group.toSection.header = "group:".toList ++ group.name :=
  rfl

theorem Options.header_serverSection (options : Options) :
    options.serverSection.header = "inet_http_server".toList ∨
      options.serverSection.header = "unix_http_server".toList := by
  unfold serverSection
  split
  · exact Or.inr rfl
  · exact Or.inl rfl

namespace Configuration

variable {part : Part} {configuration : Configuration} {block : Ini.Section}

theorem Origin.eq_serverSection (origin : Origin options configuration block)
    (headed : block.header = "inet_http_server".toList ∨ block.header = "unix_http_server".toList) :
    block = options.serverSection := by
  cases origin with
  | server _ resolved => exact Transport.httpSection_eq resolved
  | included found =>
      obtain ⟨-, rfl⟩ := includeSection_eq_some_iff.mp found
      simp at headed
  | _ => simp at headed

theorem Origin.eq_clientSection (origin : Origin options configuration block)
    (headed : block.header = "supervisorctl".toList) :
    block = configuration.client.clientSection := by
  cases origin with
  | client _ => rfl
  | server _ resolved =>
      rw [Transport.httpSection_eq resolved] at headed
      rcases options.header_serverSection with inet | unix
      · simp [inet] at headed
      · simp [unix] at headed
  | included found =>
      obtain ⟨-, rfl⟩ := includeSection_eq_some_iff.mp found
      simp at headed
  | _ => simp at headed

theorem Origin.exists_listener (origin : Origin options configuration block)
    (headed : "eventlistener:".toList <+: block.header) :
    ∃ listener, options.Lists .eventListener EventListener.reader listener ∧
      block = listener.toSection configuration.client := by
  cases origin with
  | listener listed => exact ⟨_, listed, rfl⟩
  | server _ resolved =>
      rw [Transport.httpSection_eq resolved] at headed
      rcases options.header_serverSection with inet | unix
      · simp [inet] at headed
      · simp [unix] at headed
  | included found =>
      obtain ⟨-, rfl⟩ := includeSection_eq_some_iff.mp found
      simp at headed
  | _ => simp at headed

end Configuration

theorem EventListener.filter_environment (listener : EventListener) (client : ControlClient) :
    ((listener.toSection client).entries.filter fun entry => entry.1 == "environment".toList) =
      [("environment".toList, listener.environment client)] := by
  have others : (listener.extras.pairs.filter fun pair => pair.1 != "environment".toList).filter
      (fun entry => entry.1 == "environment".toList) = [] := by
    rw [List.filter_filter, List.filter_eq_nil_iff]
    intro pair _
    simp
  rw [EventListener.entries_toSection, List.filter_append, others, List.append_nil]
  rfl

theorem EventListener.environment_eq (listener : EventListener) :
    listener.environment ⟨options.accessUrl, options.username, options.password⟩ =
      options.accessEnvironment (listener.extras.get? "environment") := by
  unfold EventListener.environment Options.accessEnvironment
  generalize listener.extras.get? "environment".toList = own
  cases own with
  | none => exact (List.append_nil _).symm
  | some own => rfl

namespace Configuration

variable {part : Part} {configuration : Configuration}

theorem client_eq (generated : Configuration.ofOptions options part = .ok configuration) :
    configuration.client = ⟨options.accessUrl, options.username, options.password⟩ := by
  obtain ⟨transport, records, resolved, -, rfl⟩ := Configuration.ofOptions_eq_ok_iff.mp generated
  exact ControlClient.resolve_eq resolved

theorem serverSection_mem_sections
    (generated : Configuration.ofOptions options part = .ok configuration)
    (selected : options.Selects "http") :
    options.serverSection ∈ configuration.document.sections := by
  obtain ⟨transport, records, resolved, -, -⟩ := Configuration.ofOptions_eq_ok_iff.mp generated
  rw [← Transport.httpSection_eq resolved]
  exact (mem_sections_iff generated).mpr (.server selected resolved)

theorem ofOptions_eq_of_inet {other : Options} (inet : ¬options.OnUnixSocket)
    (same : ∀ name, name ∉ ["file".toList, "chmod".toList] → other.get? name = options.get? name)
    (part : Part) : Configuration.ofOptions other part = Configuration.ofOptions options part := by
  have transport : Transport.resolve other = Transport.resolve options := by
    refine Transport.resolve_congr (.of_apart same (by decide)) ?_
    intro kind parsed
    cases kind with
    | inet => exact .of_apart same (by decide)
    | unix => exact absurd ((SocketKind.eq_unix_iff parsed).mp rfl) inet
  exact ofOptions_congr (.of_apart same (by decide))
    (Selection.resolve_congr (.of_apart same (by decide))) transport part

theorem ofOptions_eq_of_unix {other : Options} (unix : options.OnUnixSocket)
    (same : ∀ name, name ∉ ["port".toList] → other.get? name = options.get? name) (part : Part) :
    Configuration.ofOptions other part = Configuration.ofOptions options part := by
  have transport : Transport.resolve other = Transport.resolve options := by
    refine Transport.resolve_congr (.of_apart same (by decide)) ?_
    intro kind parsed
    cases kind with
    | inet => exact absurd ((SocketKind.eq_unix_iff parsed).mpr unix) SocketKind.noConfusion
    | unix => exact .of_apart same (by decide)
  exact ofOptions_congr (.of_apart same (by decide))
    (Selection.resolve_congr (.of_apart same (by decide))) transport part

/-- The control client that is reported, the section of the server, that of the control client and
the environment of every event listener show one way to the daemon, the one of the options. The
options of the kind of socket that is not in use have no part in it. -/
theorem access_agrees (generated : Configuration.ofOptions options part = .ok configuration) :
    configuration.client = ⟨options.accessUrl, options.username, options.password⟩ ∧
    (∀ block ∈ configuration.document.sections,
      block.header = "inet_http_server".toList ∨ block.header = "unix_http_server".toList →
        block = options.serverSection) ∧
    (options.Selects "http" → options.serverSection ∈ configuration.document.sections) ∧
    (∀ block ∈ configuration.document.sections, block.header = "supervisorctl".toList →
      block.entries = [("serverurl".toList, options.accessUrl),
        ("username".toList, options.username), ("password".toList, options.password)]) ∧
    (∀ block ∈ configuration.document.sections, "eventlistener:".toList <+: block.header →
      ∃ listener, options.Lists .eventListener EventListener.reader listener ∧
        block.header = "eventlistener:".toList ++ listener.name ∧
        (block.entries.filter fun entry => entry.1 == "environment".toList) =
          [("environment".toList,
            options.accessEnvironment (listener.extras.get? "environment"))]) ∧
    (¬options.OnUnixSocket → ∀ other : Options,
      (∀ name, name ∉ ["file".toList, "chmod".toList] → other.get? name = options.get? name) →
        Configuration.ofOptions other part = .ok configuration) ∧
    (options.OnUnixSocket → ∀ other : Options,
      (∀ name, name ∉ ["port".toList] → other.get? name = options.get? name) →
        Configuration.ofOptions other part = .ok configuration) := by
  have client := client_eq generated
  refine ⟨client, ?_, serverSection_mem_sections generated, ?_, ?_, ?_, ?_⟩
  · intro block inside headed
    exact ((mem_sections_iff generated).mp inside).eq_serverSection headed
  · intro block inside headed
    rw [((mem_sections_iff generated).mp inside).eq_clientSection headed, client]
    rfl
  · intro block inside headed
    obtain ⟨listener, listed, rfl⟩ := ((mem_sections_iff generated).mp inside).exists_listener headed
    refine ⟨listener, listed, rfl, ?_⟩
    rw [listener.filter_environment, client, listener.environment_eq]
  · intro inet other same
    rw [ofOptions_eq_of_inet inet same, generated]
  · intro unix other same
    rw [ofOptions_eq_of_unix unix same, generated]

/-- A `serverurl` option comes before the socket file even when it is empty, and a port beside the
socket file has no part in anything. -/
theorem access_agrees_without_sections :
    let options := Options.ofList [
      ("eventlisteners".toList, "watch (environment=A=1) TICK_60 ./watch".toList),
      ("http-socket".toList, "unix".toList),
      ("sections".toList, []),
      ("serverurl".toList, []),
      ("user".toList, "admin".toList)]
    ∃ configuration, Configuration.ofOptions options ⟨"/srv", "main"⟩ = .ok configuration ∧
      configuration.client = ⟨[], "admin".toList, []⟩ ∧
      Configuration.ofOptions (options.insert "port" "80") ⟨"/srv", "main"⟩ =
        .ok configuration := by
  intro options
  obtain ⟨configuration, generated⟩ :
      ∃ configuration, Configuration.ofOptions options ⟨"/srv", "main"⟩ = .ok configuration :=
    exists_eq_ok_of_isOk (by decide +kernel)
  obtain ⟨client, -, -, -, -, -, unix⟩ := access_agrees generated
  have access : (⟨options.accessUrl, options.username, options.password⟩ : ControlClient) =
      ⟨[], "admin".toList, []⟩ := by decide +kernel
  refine ⟨configuration, generated, client.trans access, unix (by decide +kernel) _ ?_⟩
  intro name different
  rw [Options.get?_insert, if_neg (List.ne_of_not_mem_cons different)]

end Configuration

end Supervision
