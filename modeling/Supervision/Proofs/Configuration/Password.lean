import Supervision.Proofs.Configuration.Sections
import Supervision.Proofs.Deployment.Calls
import Supervision.Proofs.Options.Agreement

/-!
Where the password can be seen: two option sets that differ in nothing else give configurations that
differ in nothing but the values of the entries that are there to show it.
-/

namespace Supervision

open Text Outcome

/-! Sections that differ in what they show of the password. -/

namespace Ini

/-- The entry with this key, in a section with this header, is there to show the password: that of
the server, that of the control client, and the environment of an event listener. -/
def ShowsPassword (header key : Text) : Prop :=
  key = "password".toList ∧
      header ∈ ["inet_http_server".toList, "unix_http_server".toList, "supervisorctl".toList] ∨
    key = "environment".toList ∧ "eventlistener:".toList <+: header

/-- Two entries of a section with this header have the same key, and the same value unless they are
there to show the password. -/
def SameEntry (header : Text) (entry other : Text × Text) : Prop :=
  other.1 = entry.1 ∧ (other.2 = entry.2 ∨ ShowsPassword header entry.1)

structure SamePublic (block other : Section) : Prop where
  header : other.header = block.header
  entries : List.Forall₂ (SameEntry block.header) block.entries other.entries

theorem SameEntry.refl (header : Text) (entry : Text × Text) : SameEntry header entry entry :=
  ⟨rfl, Or.inl rfl⟩

theorem SamePublic.refl (block : Section) : SamePublic block block :=
  ⟨rfl, List.forall₂_same.mpr fun entry _ => .refl block.header entry⟩

theorem SamePublic.keys {block other : Section} (same : SamePublic block other) :
    other.keys = block.keys :=
  map_eq_map_of_forall₂ same.entries fun _ _ agree => agree.1

end Ini

open Ini

theorem Transport.samePublic_httpSection (transport : Transport) (password : Text) :
    SamePublic transport.httpSection { transport with password }.httpSection := by
  obtain ⟨endpoint, username, _⟩ := transport
  cases endpoint with
  | inet address =>
      have shown : ShowsPassword "inet_http_server" "password" := Or.inl ⟨rfl, by decide⟩
      exact ⟨rfl, .cons (.refl _ _) (.cons (.refl _ _) (.cons ⟨rfl, Or.inr shown⟩ .nil))⟩
  | unix file mode =>
      have shown : ShowsPassword "unix_http_server" "password" := Or.inl ⟨rfl, by decide⟩
      exact ⟨rfl, .cons (.refl _ _) (.cons (.refl _ _) (.cons ⟨rfl, Or.inr shown⟩
        (.cons (.refl _ _) .nil)))⟩

theorem ControlClient.samePublic_clientSection (client : ControlClient) (password : Text) :
    SamePublic client.clientSection { client with password }.clientSection := by
  have shown : ShowsPassword "supervisorctl" "password" := Or.inl ⟨rfl, by decide⟩
  exact ⟨rfl, .cons (.refl _ _) (.cons (.refl _ _) (.cons ⟨rfl, Or.inr shown⟩ .nil))⟩

theorem EventListener.samePublic_toSection (listener : EventListener) (client : ControlClient)
    (password : Text) :
    SamePublic (listener.toSection client) (listener.toSection { client with password }) := by
  have shown : ShowsPassword (listener.toSection client).header "environment" :=
    Or.inr ⟨rfl, List.prefix_append _ _⟩
  exact ⟨rfl, .cons (.refl _ _) (.cons (.refl _ _) (.cons (.refl _ _) (.cons ⟨rfl, Or.inr shown⟩
    (List.forall₂_same.mpr fun entry _ => .refl _ entry))))⟩

/-! Configurations that differ in the password. -/

namespace Configuration

theorem samePublic_sections (selection : Selection) (daemon : Daemon) (transport : Transport)
    (client : ControlClient) (records : Records) (password : Text) :
    List.Forall₂ SamePublic (sections selection daemon transport client records)
      (sections selection daemon { transport with password } { client with password } records) :=
  forall₂_sections .refl (.refl _) (transport.samePublic_httpSection password)
    (client.samePublic_clientSection password) (fun _ => .refl _)
    (fun listener => listener.samePublic_toSection client password) selection records

theorem sections_password_of_unshown {selection : Selection} {records : Records}
    (noServer : selection.http = false) (noClient : selection.control = false)
    (noListener : records.listeners = []) (daemon : Daemon) (transport : Transport)
    (client : ControlClient) (password : Text) :
    sections selection daemon { transport with password } { client with password } records =
      sections selection daemon transport client records := by
  simp only [sections, httpSections, controlSections, noServer, noClient, noListener,
    Bool.false_eq_true, ↓reduceIte, List.map_nil]

end Configuration

section

variable {options other : Options}
  (same : ∀ name, name ≠ "password".toList → other.get? name = options.get? name)

include same

theorem Transport.resolve_password :
    Transport.resolve other = (Transport.resolve options).map fun transport =>
      { transport with password := other.getD "password" "" } := by
  have agree : Options.AgreeOn ["http-socket", "user", "port", "file", "chmod"] options other :=
    .of_ne same (by decide)
  simp (disch := decide) only [Transport.resolve, agree.getD]
  cases SocketKind.parse (options.getD "http-socket" "inet") <;> rfl

theorem ControlClient.resolve_password (transport : Transport) (password : Text) :
    ControlClient.resolve other { transport with password } =
      { ControlClient.resolve options transport with password } := by
  have agree : Options.AgreeOn ["serverurl"] options other := .of_ne same (by decide)
  rw [resolve, resolve, agree.getD (by decide)]
  rfl

namespace Configuration

variable {part : Part}

theorem ofOptions_password_of_error {error : ConfigError}
    (failed : Configuration.ofOptions options part = .error error) :
    Configuration.ofOptions other part = .error error := by
  have selection : Selection.resolve other = Selection.resolve options :=
    Selection.resolve_congr (.of_ne same (by decide))
  have records := Records.read_congr (.of_ne same (by decide)) (Selection.resolve options)
  rw [ofOptions_eq_error_iff] at failed ⊢
  rw [Transport.resolve_password same, selection, records]
  rcases failed with unknown | ⟨⟨transport, resolved⟩, failed⟩
  · exact Or.inl (by rw [unknown]; rfl)
  · exact Or.inr ⟨⟨_, by rw [resolved]; rfl⟩, failed⟩

theorem ofOptions_password_of_ok {transport : Transport} {records : Records}
    (resolved : Transport.resolve options = .ok transport)
    (read : Records.read options (Selection.resolve options) = .ok records) :
    Configuration.ofOptions other part = .ok {
      document := ⟨sections (Selection.resolve options) (Daemon.resolve options part)
        { transport with password := other.getD "password" "" }
        { ControlClient.resolve options transport with password := other.getD "password" "" }
        records⟩
      daemon := Daemon.resolve options part
      client :=
        { ControlClient.resolve options transport with password := other.getD "password" "" }
      path := part.configPath options } := by
  have selection : Selection.resolve other = Selection.resolve options :=
    Selection.resolve_congr (.of_ne same (by decide))
  refine ofOptions_eq_ok_iff.mpr
    ⟨{ transport with password := other.getD "password" "" }, records, ?_, ?_, ?_⟩
  · rw [Transport.resolve_password same, resolved]
    rfl
  · rw [selection, Records.read_congr (.of_ne same (by decide)), read]
  · rw [selection, Daemon.resolve_congr (.of_ne same (by decide)),
      ControlClient.resolve_password same, Part.configPath_congr (.of_ne same (by decide))]

/-- Where the password can be seen. Option sets that differ in nothing else fail with the same error or
succeed both, and then the configurations have the same headers, the same keys, and the same values
but for the entries that are there to show the password. The daemon, the path, what is installed
and what is reported do not depend on it, and neither does the text when no section that shows it is
there. -/
theorem password_seen (part : Part) :
    (∃ error, Configuration.ofOptions options part = .error error ∧
      Configuration.ofOptions other part = .error error) ∨
    ∃ configuration changed, Configuration.ofOptions options part = .ok configuration ∧
      Configuration.ofOptions other part = .ok changed ∧
      changed.document.headers = configuration.document.headers ∧
      changed.document.sections.map Section.keys =
        configuration.document.sections.map Section.keys ∧
      List.Forall₂ SamePublic configuration.document.sections changed.document.sections ∧
      changed.daemon = configuration.daemon ∧ changed.path = configuration.path ∧
      (∀ path, InstallRequest.all other part path = InstallRequest.all options part path) ∧
      (∀ installed, changed.report installed = configuration.report installed) ∧
      (¬options.Selects "http" → ¬options.Selects "ctl" →
        recordLines (options.block "eventlisteners") = [] →
          changed.text = configuration.text) := by
  cases made : Configuration.ofOptions options part with
  | error error => exact Or.inl ⟨error, rfl, ofOptions_password_of_error same made⟩
  | ok configuration =>
      obtain ⟨transport, records, resolved, read, rfl⟩ := ofOptions_eq_ok_iff.mp made
      have sameSections := samePublic_sections (Selection.resolve options)
        (Daemon.resolve options part) transport (ControlClient.resolve options transport) records
        (other.getD "password" "")
      refine Or.inr ⟨_, _, rfl, ofOptions_password_of_ok same resolved read,
        map_eq_map_of_forall₂ sameSections fun _ _ => SamePublic.header,
        map_eq_map_of_forall₂ sameSections fun _ _ => SamePublic.keys, sameSections, rfl, rfl,
        InstallRequest.all_congr (.of_ne same (by decide)) part, fun _ => rfl, ?_⟩
      intro noServer noClient noLine
      obtain ⟨-, -, -, listeners, -⟩ := Records.read_eq_ok_iff.mp read
      rw [noLine, List.forall₂_nil_left_iff] at listeners
      rw [← Selection.http_resolve, Bool.not_eq_true] at noServer
      rw [← Selection.control_resolve, Bool.not_eq_true] at noClient
      simp only [text, sections_password_of_unshown noServer noClient listeners]

end Configuration

end

theorem Configuration.password_seen_nowhere :
    let options := Options.ofList [
      ("programs".toList, "10 web (password=unset) ./run [--password x]".toList),
      ("sections".toList, "rpc".toList)]
    ∃ configuration changed, Configuration.ofOptions options ⟨"/srv", "main"⟩ = .ok configuration ∧
      Configuration.ofOptions (options.insert "password" "secret") ⟨"/srv", "main"⟩ = .ok changed ∧
      changed.text = configuration.text := by
  intro options
  have same : ∀ name, name ≠ "password".toList →
      (options.insert "password" "secret").get? name = options.get? name := by
    intro name different
    rw [Options.get?_insert, if_neg different]
  obtain ⟨configuration, generated⟩ :
      ∃ configuration, Configuration.ofOptions options ⟨"/srv", "main"⟩ = .ok configuration :=
    exists_eq_ok_of_isOk (by decide +kernel)
  rcases password_seen same ⟨"/srv", "main"⟩ with
    ⟨error, failed, -⟩ | ⟨_, changed, made, madeChanged, -, -, -, -, -, -, -, unseen⟩
  · rw [generated] at failed
    cases failed
  · have unchanged := unseen (by decide +kernel) (by decide +kernel) (by decide +kernel)
    exact ⟨_, changed, made, madeChanged, unchanged⟩

end Supervision
