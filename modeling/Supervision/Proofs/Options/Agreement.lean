import Supervision.Launcher
import Supervision.Proofs.Configuration.Reading

/-!
Which options each part of a configuration is made from: option sets that agree on them give the
same part.
-/

namespace Supervision

open Text Outcome

namespace Options

def AgreeOn (names : List Text) (options other : Options) : Prop :=
  ∀ name ∈ names, other.get? name = options.get? name

namespace AgreeOn

variable {names : List Text} {options other : Options} {name default : Text}

theorem get? (agree : AgreeOn names options other) (read : name ∈ names) :
    other.get? name = options.get? name :=
  agree name read

theorem getD (agree : AgreeOn names options other) (read : name ∈ names) :
    other.getD name default = options.getD name default := by
  rw [Options.getD, Options.getD, agree name read]

theorem nonEmpty? (agree : AgreeOn names options other) (read : name ∈ names) :
    other.nonEmpty? name = options.nonEmpty? name := by
  rw [Options.nonEmpty?, Options.nonEmpty?, agree name read]

theorem block (agree : AgreeOn names options other) (read : name ∈ names) :
    other.block name = options.block name :=
  agree.getD read

theorem blockLines (agree : AgreeOn names options other) (read : name ∈ names) :
    other.blockLines name = options.blockLines name := by
  rw [Options.blockLines, Options.blockLines, agree.block read]

theorem mono {fewer : List Text} (agree : AgreeOn names options other) (known : fewer ⊆ names) :
    AgreeOn fewer options other :=
  fun name read => agree name (known read)

theorem of_apart {different : List Text}
    (same : ∀ name, name ∉ different → other.get? name = options.get? name)
    (apart : ∀ name ∈ names, name ∉ different) : AgreeOn names options other :=
  fun name read => same name (apart name read)

/-- Option sets that differ under one name agree on all others. -/
theorem of_ne {key : Text} (same : ∀ name, name ≠ key → other.get? name = options.get? name)
    (apart : key ∉ names) : AgreeOn names options other :=
  fun name read => same name fun isKey => apart (isKey ▸ read)

end AgreeOn

theorem agreeOn_insert {names : List Text} {options : Options} {key value : Text}
    (apart : key ∉ names) : AgreeOn names options (options.insert key value) := by
  refine .of_ne (fun name different => ?_) apart
  rw [get?_insert, if_neg different]

theorem agreeOn_insert_insert {names : List Text} {options : Options} {key value otherValue : Text}
    (apart : key ∉ names) :
    AgreeOn names (options.insert key value) (options.insert key otherValue) := by
  refine .of_ne (fun name different => ?_) apart
  rw [get?_insert, get?_insert, if_neg different, if_neg different]

end Options

/-! The options of each part. -/

def Daemon.optionNames : List Text :=
  ["childlogdir", "logfile", "logfile-maxbytes", "logfile-backups", "loglevel", "pidfile", "umask",
    "nodaemon", "nocleanup", "supervisord-user", "supervisord-directory",
    "supervisord-environment", "env-path", "childstdout-logfile-maxbytes",
    "childstderr-logfile-maxbytes"]

def Transport.optionNames : List Text :=
  ["http-socket", "user", "password"]

def SocketKind.optionNames : SocketKind → List Text
  | .inet => ["port"]
  | .unix => ["file", "chmod"]

variable {options other : Options}

theorem Selection.resolve_congr (agree : Options.AgreeOn ["sections"] options other) :
    Selection.resolve other = Selection.resolve options := by
  rw [resolve, resolve, selector, selector, agree.getD (by decide)]

theorem Selection.resolve_insert (options : Options) (raw : Text) :
    Selection.resolve (options.insert "sections" raw) = Selection.parse raw := by
  rw [resolve, selector, Options.getD, Options.get?_insert, if_pos rfl, Option.getD_some]

theorem Daemon.resolve_congr (agree : Options.AgreeOn Daemon.optionNames options other)
    (part : Part) : Daemon.resolve other part = Daemon.resolve options part := by
  simp (disch := decide) only [Daemon.resolve, agree.getD, agree.get?, agree.nonEmpty?]

/-- Only the options of its own kind of socket matter to a server. -/
theorem Transport.resolve_congr (agree : Options.AgreeOn Transport.optionNames options other)
    (own : ∀ kind, SocketKind.parse (options.getD "http-socket" "inet") = .ok kind →
      Options.AgreeOn kind.optionNames options other) :
    Transport.resolve other = Transport.resolve options := by
  simp (disch := decide) only [Transport.resolve, agree.getD]
  cases parsed : SocketKind.parse (options.getD "http-socket" "inet") with
  | error error => rfl
  | ok kind =>
      have endpoint := own kind parsed
      cases kind with
      | inet => simp (disch := decide) only [bind, Except.bind, endpoint.getD]
      | unix => simp (disch := decide) only [bind, Except.bind, endpoint.getD]

theorem ControlClient.resolve_congr (agree : Options.AgreeOn ["serverurl"] options other)
    (transport : Transport) :
    ControlClient.resolve other transport = ControlClient.resolve options transport := by
  rw [resolve, resolve, agree.getD (by decide)]

theorem Records.read_congr (agree : Options.AgreeOn Options.lineOptions options other)
    (selection : Selection) : Records.read other selection = Records.read options selection := by
  simp (disch := decide) only [Records.read_eq, agree.block, agree.blockLines]

theorem Part.configPath_congr (agree : Options.AgreeOn ["supervisord-conf"] options other)
    (part : Part) : part.configPath other = part.configPath options := by
  rw [configPath, configPath, agree.get? (by decide)]

def InstallRequest.optionNames : List Text :=
  ["d_plugins", "ctl_plugins", "plugins"]

theorem InstallRequest.all_congr (agree : Options.AgreeOn InstallRequest.optionNames options other)
    (part : Part) (path : PathText) :
    InstallRequest.all other part path = InstallRequest.all options part path := by
  simp (disch := decide) only [InstallRequest.all, agree.blockLines]

def Configuration.optionNames : List Text :=
  Daemon.optionNames ++ Options.lineOptions ++ ["serverurl".toList, "supervisord-conf".toList]

theorem Configuration.ofOptions_congr
    (agree : Options.AgreeOn Configuration.optionNames options other)
    (selection : Selection.resolve other = Selection.resolve options)
    (transport : Transport.resolve other = Transport.resolve options) (part : Part) :
    Configuration.ofOptions other part = Configuration.ofOptions options part := by
  have daemon : Options.AgreeOn Daemon.optionNames options other := agree.mono fun _ read =>
    List.mem_append_left _ (List.mem_append_left _ read)
  have records : Options.AgreeOn Options.lineOptions options other := agree.mono fun _ read =>
    List.mem_append_left _ (List.mem_append_right _ read)
  have client : Options.AgreeOn ["serverurl"] options other := agree.mono fun _ read =>
    List.mem_append_right _ (List.mem_cons.mpr (Or.inl (List.mem_singleton.mp read)))
  have path : Options.AgreeOn ["supervisord-conf"] options other := agree.mono fun _ read =>
    List.mem_append_right _ (List.mem_cons_of_mem _ read)
  simp only [Configuration.ofOptions, selection, transport, Daemon.resolve_congr daemon,
    ControlClient.resolve_congr client, Records.read_congr records, Part.configPath_congr path]

end Supervision
