import Supervision.Daemon
import Supervision.Proofs.Configuration.Reading
import Supervision.Proofs.Ini.Reading
import Supervision.Proofs.Path.Letter

/-!
Options on single lines, and the sections that are made of them alone: those of the daemon, of its
HTTP server and of the control client.
-/

namespace Supervision

open Text Outcome Ini

def Options.SingleLine (options : Options) : Prop :=
  ∀ key value, key ∉ lineOptions → options.get? key = some value → '\n' ∉ value

namespace Options.SingleLine

variable {options : Options} {key default value : Text}

theorem getD (single : options.SingleLine) (other : key ∉ lineOptions) (fallback : '\n' ∉ default) :
    '\n' ∉ options.getD key default := by
  unfold Options.getD
  cases given : options.get? key with
  | none => exact fallback
  | some value => exact single key value other given

theorem get? (single : options.SingleLine) (other : key ∉ lineOptions) :
    ∀ value ∈ options.get? key, '\n' ∉ value :=
  fun value given => single key value other given

theorem nonEmpty? (single : options.SingleLine) (other : key ∉ lineOptions) :
    ∀ value ∈ options.nonEmpty? key, '\n' ∉ value :=
  fun value given => single key value other (Option.filter_eq_some_iff.mp given).1

theorem of_entries (single : ∀ entry ∈ options.entries, entry.1 ∉ lineOptions → '\n' ∉ entry.2) :
    options.SingleLine := by
  intro key value other given
  obtain ⟨before, after, entries, -⟩ := List.lookup_eq_some_iff.mp given
  exact single (key, value) (by simp [entries]) other

end Options.SingleLine

theorem Path.newline_not_mem_join {base : PathText} {path : Text} (inBase : .char '\n' ∉ base)
    (inPath : '\n' ∉ path) : .char '\n' ∉ Path.join base path := by
  unfold Path.join
  split
  · simpa using inPath
  · split <;> simp [inBase, inPath]

theorem PathText.newline_not_mem_shown {path : PathText} (single : .char '\n' ∉ path) :
    '\n' ∉ path.shown :=
  fun shows => single (mem_of_mem_shown shows (by decide))

theorem Ini.plainEntry {key value : Text} (plainKey : ' ' ∉ key ∧ '\n' ∉ key)
    (single : '\n' ∉ value) : PlainEntry (key, value) :=
  ⟨plainKey.1, plainKey.2, single⟩

namespace Ini.Section

theorem plain_mk {header : Text} {entries : List (Text × Text)} (single : '\n' ∉ header)
    (plain : ∀ entry ∈ entries, PlainEntry entry) : Section.Plain ⟨header, entries⟩ :=
  ⟨single, plain⟩

theorem plain_single {header key value : Text} (single : '\n' ∉ header)
    (plainKey : ' ' ∉ key ∧ '\n' ∉ key) (singleValue : '\n' ∉ value) :
    Section.Plain ⟨header, [(key, value)]⟩ :=
  plain_mk single (List.forall_mem_singleton.mpr (plainEntry plainKey singleValue))

theorem plain_ofSettings {header : Text} {settings : List (Text × Option Text)}
    (single : '\n' ∉ header)
    (plain : ∀ setting ∈ settings, ∀ value ∈ setting.2, PlainEntry (setting.1, value)) :
    (ofSettings header settings).Plain := by
  refine ⟨single, ?_⟩
  intro entry member
  obtain ⟨setting, inside, given⟩ := List.mem_filterMap.mp member
  obtain ⟨value, present, rfl⟩ := Option.map_eq_some_iff.mp given
  exact plain setting inside value present

end Ini.Section

theorem Ini.plain_some {key value : Text} (plainKey : ' ' ∉ key ∧ '\n' ∉ key)
    (single : '\n' ∉ value) : ∀ text ∈ some value, PlainEntry (key, text) :=
  fun _ given => plainEntry plainKey (Option.some.inj given ▸ single)

theorem Ini.plain_optional {key : Text} {value : Option Text} (plainKey : ' ' ∉ key ∧ '\n' ∉ key)
    (single : ∀ text ∈ value, '\n' ∉ text) : ∀ text ∈ value, PlainEntry (key, text) :=
  fun text given => plainEntry plainKey (single text given)

/-! The daemon. -/

theorem Daemon.newline_not_mem_environmentSetting {daemon : Daemon}
    (environment : ∀ value ∈ daemon.environment, '\n' ∉ value)
    (searchPath : ∀ value ∈ daemon.searchPath, '\n' ∉ value) :
    ∀ value ∈ daemon.environmentSetting, '\n' ∉ value := by
  intro value found
  unfold environmentSetting at found
  split at found
  case h_1 own path present added =>
    obtain rfl := Option.some.inj found
    simp [environment own present, searchPath path added]
  case h_2 own present added =>
    obtain rfl := Option.some.inj found
    exact environment own present
  case h_3 path absent added =>
    obtain rfl := Option.some.inj found
    simp [searchPath path added]
  case h_4 => simp at found

theorem Daemon.plain_daemonSection {options : Options} {part : Part} (single : options.SingleLine)
    (base : .char '\n' ∉ part.baseDir) : (Daemon.resolve options part).daemonSection.Plain := by
  have var : .char '\n' ∉ Path.join part.baseDir "var" :=
    Path.newline_not_mem_join base (by decide)
  have log : .char '\n' ∉ Path.join (Path.join part.baseDir "var") "log" :=
    Path.newline_not_mem_join var (by decide)
  have logFile :
      .char '\n' ∉ Path.join (Path.join (Path.join part.baseDir "var") "log") "supervisord.log" :=
    Path.newline_not_mem_join log (by decide)
  have pidFile : .char '\n' ∉ Path.join (Path.join part.baseDir "var") "supervisord.pid" :=
    Path.newline_not_mem_join var (by decide)
  have environment : ∀ value ∈ (Daemon.resolve options part).environmentSetting, '\n' ∉ value :=
    Daemon.newline_not_mem_environmentSetting (single.nonEmpty? (by decide))
      (single.get? (by decide))
  refine Section.plain_ofSettings (by decide) ?_
  simp only [List.forall_mem_cons]
  refine ⟨plain_some (by decide) (single.getD (by decide) (PathText.newline_not_mem_shown log)),
    plain_some (by decide) (single.getD (by decide) (PathText.newline_not_mem_shown logFile)),
    plain_some (by decide) (single.getD (by decide) (by decide)),
    plain_some (by decide) (single.getD (by decide) (by decide)),
    plain_some (by decide) (single.getD (by decide) (by decide)),
    plain_some (by decide) (single.getD (by decide) (PathText.newline_not_mem_shown pidFile)),
    plain_some (by decide) (single.getD (by decide) (by decide)),
    plain_some (by decide) (single.getD (by decide) (by decide)),
    plain_some (by decide) (single.getD (by decide) (by decide)),
    plain_optional (by decide) (single.nonEmpty? (by decide)),
    plain_optional (by decide) (single.nonEmpty? (by decide)),
    plain_optional (by decide) environment, by simp⟩

/-! The server and its client. -/

def Endpoint.SingleLine : Endpoint → Prop
  | .inet address => '\n' ∉ address
  | .unix file mode => '\n' ∉ file ∧ '\n' ∉ mode

structure Transport.SingleLine (transport : Transport) : Prop where
  endpoint : transport.endpoint.SingleLine
  username : '\n' ∉ transport.username
  password : '\n' ∉ transport.password

structure ControlClient.SingleLine (client : ControlClient) : Prop where
  serverUrl : '\n' ∉ client.serverUrl
  username : '\n' ∉ client.username
  password : '\n' ∉ client.password

theorem Transport.singleLine_of_resolve {options : Options} {transport : Transport}
    (single : options.SingleLine) (resolved : Transport.resolve options = .ok transport) :
    transport.SingleLine := by
  simp only [Transport.resolve, bind_eq_ok_iff, pure_eq_ok_iff] at resolved
  obtain ⟨kind, -, rfl⟩ := resolved
  refine ⟨?_, single.getD (by decide) (by decide), single.getD (by decide) (by decide)⟩
  cases kind with
  | inet => exact single.getD (by decide) (by decide)
  | unix => exact ⟨single.getD (by decide) (by decide), single.getD (by decide) (by decide)⟩

namespace Transport.SingleLine

variable {transport : Transport}

theorem serverUrl (single : transport.SingleLine) : '\n' ∉ transport.serverUrl := by
  obtain ⟨endpoint, username, password⟩ := transport
  have own := single.endpoint
  cases endpoint with
  | inet address =>
      unfold Transport.serverUrl
      simp only [Endpoint.SingleLine] at own ⊢
      split <;> simp [own]
  | unix file mode => simp [Transport.serverUrl, own.1]

theorem plain_httpSection (single : transport.SingleLine) : transport.httpSection.Plain := by
  obtain ⟨own, username, password⟩ := single
  obtain ⟨endpoint, _, _⟩ := transport
  cases endpoint with
  | inet address =>
      refine Section.plain_mk (by decide) ?_
      simp only [List.forall_mem_cons]
      exact ⟨plainEntry (by decide) own, plainEntry (by decide) username,
        plainEntry (by decide) password, by simp⟩
  | unix file mode =>
      refine Section.plain_mk (by decide) ?_
      simp only [List.forall_mem_cons]
      exact ⟨plainEntry (by decide) own.1, plainEntry (by decide) username,
        plainEntry (by decide) password, plainEntry (by decide) own.2, by simp⟩

end Transport.SingleLine

theorem ControlClient.singleLine_resolve {options : Options} {transport : Transport}
    (single : options.SingleLine) (reached : transport.SingleLine) :
    (ControlClient.resolve options transport).SingleLine :=
  ⟨single.getD (by decide) reached.serverUrl, reached.username, reached.password⟩

theorem ControlClient.SingleLine.plain_clientSection {client : ControlClient}
    (single : client.SingleLine) : client.clientSection.Plain := by
  refine Section.plain_mk (by decide) ?_
  simp only [List.forall_mem_cons]
  exact ⟨plainEntry (by decide) single.serverUrl, plainEntry (by decide) single.username,
    plainEntry (by decide) single.password, by simp⟩

end Supervision
