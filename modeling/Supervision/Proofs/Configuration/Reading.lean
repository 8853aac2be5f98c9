import Supervision.Configuration
import Supervision.Proofs.Record.Line

/-!
What a configuration is read from: the words of the `sections` option, the kind of HTTP socket, and
the blocks of lines.
-/

namespace Supervision

open Text Outcome

/-- A family of sections is wanted: its word is among those of the `sections` option. All families
are wanted when the option is missing. -/
def Options.Selects (options : Options) (family : Text) : Prop :=
  family ∈ words (options.getD "sections" "ctl http rpc")

instance (options : Options) (family : Text) : Decidable (options.Selects family) :=
  inferInstanceAs (Decidable (_ ∈ _))

theorem Selection.control_resolve (options : Options) :
    (Selection.resolve options).control = true ↔ options.Selects "ctl" :=
  List.contains_iff_mem

theorem Selection.http_resolve (options : Options) :
    (Selection.resolve options).http = true ↔ options.Selects "http" :=
  List.contains_iff_mem

theorem Selection.rpc_resolve (options : Options) :
    (Selection.resolve options).rpc = true ↔ options.Selects "rpc" :=
  List.contains_iff_mem

/-! The HTTP socket. -/

def Options.UnknownSocket (options : Options) (value : Text) : Prop :=
  options.get? "http-socket" = some value ∧ value ≠ "inet".toList ∧ value ≠ "unix".toList

theorem SocketKind.parse_eq_error_iff {value : Text} {error : ConfigError} :
    SocketKind.parse value = .error error ↔
      value ≠ "inet".toList ∧ value ≠ "unix".toList ∧ error = .unknownTransport value := by
  unfold SocketKind.parse
  by_cases isInet : value = "inet".toList
  · simp [isInet]
  · by_cases isUnix : value = "unix".toList
    · simp [isUnix]
    · rw [if_neg isInet, if_neg isUnix, Except.error.injEq]
      exact ⟨fun same => ⟨isInet, isUnix, same.symm⟩, fun ⟨_, _, same⟩ => same.symm⟩

theorem SocketKind.parse_eq_ok_iff {value : Text} {kind : SocketKind} :
    SocketKind.parse value = .ok kind ↔
      value = "inet".toList ∧ kind = .inet ∨ value = "unix".toList ∧ kind = .unix := by
  unfold SocketKind.parse
  by_cases isInet : value = "inet".toList
  · rw [if_pos isInet, isInet]
    simp [eq_comm]
  · by_cases isUnix : value = "unix".toList
    · rw [if_neg isInet, if_pos isUnix, isUnix]
      simp [eq_comm]
    · rw [if_neg isInet, if_neg isUnix]
      simp only [reduceCtorEq, isInet, isUnix, false_and, or_self]

theorem Transport.resolve_eq_error_iff {options : Options} {error : ConfigError} :
    Transport.resolve options = .error error ↔
      ∃ value, options.UnknownSocket value ∧ error = .unknownTransport value := by
  simp only [Transport.resolve, bind_eq_error_iff, SocketKind.parse_eq_error_iff, pure_ne_error,
    and_false, exists_false, or_false, Options.UnknownSocket, Options.getD]
  cases given : options.get? "http-socket".toList with
  | none => simp
  | some value => simp [and_assoc]

/-- The server listens on a socket file; otherwise it listens on a port. -/
def Options.OnUnixSocket (options : Options) : Prop :=
  options.get? "http-socket" = some "unix".toList

instance (options : Options) : Decidable options.OnUnixSocket :=
  inferInstanceAs (Decidable (_ = _))

theorem SocketKind.eq_unix_iff {options : Options} {kind : SocketKind}
    (parsed : SocketKind.parse (options.getD "http-socket" "inet") = .ok kind) :
    kind = .unix ↔ options.OnUnixSocket := by
  rw [parse_eq_ok_iff, Options.getD] at parsed
  unfold Options.OnUnixSocket
  cases given : options.get? "http-socket".toList with
  | none =>
      rw [given] at parsed
      obtain ⟨-, rfl⟩ | ⟨isUnix, -⟩ := parsed
      · simp
      · exact absurd isUnix (by decide)
  | some value =>
      rw [given, Option.getD_some] at parsed
      obtain ⟨rfl, rfl⟩ | ⟨rfl, rfl⟩ := parsed
      · simp
      · simp

theorem Transport.eq_of_resolve {options : Options} {transport : Transport}
    (resolved : Transport.resolve options = .ok transport) :
    transport = {
      endpoint :=
        if options.OnUnixSocket then .unix (options.getD "file" "") (options.getD "chmod" "0700")
        else .inet (options.getD "port" "127.0.0.1:9001")
      username := options.getD "user" ""
      password := options.getD "password" "" } := by
  simp only [Transport.resolve, bind_eq_ok_iff, pure_eq_ok_iff] at resolved
  obtain ⟨kind, parsed, rfl⟩ := resolved
  have unix := SocketKind.eq_unix_iff parsed
  cases kind with
  | inet => rw [if_neg (mt unix.mpr SocketKind.noConfusion)]
  | unix => rw [if_pos (unix.mp rfl)]

/-! Records. -/

def RecordKind.option : RecordKind → String
  | .program => "programs"
  | .eventListener => "eventlisteners"
  | .group => "groups"
  | .controlPlugin => "ctlplugins"
  | .rpcPlugin => "rpcplugins"

def Options.lineOptions : List Text :=
  ["ctlplugins", "rpcplugins", "programs", "eventlisteners", "groups", "include"]

def Options.kindsRead (options : Options) : List RecordKind :=
  (if options.Selects "ctl" then [.controlPlugin] else []) ++
    (if options.Selects "rpc" then [.rpcPlugin] else []) ++ [.program, .eventListener, .group]

theorem Options.controlPlugin_mem_kindsRead {options : Options} :
    .controlPlugin ∈ options.kindsRead ↔ options.Selects "ctl" := by
  simp [kindsRead]

theorem Options.rpcPlugin_mem_kindsRead {options : Options} :
    .rpcPlugin ∈ options.kindsRead ↔ options.Selects "rpc" := by
  simp [kindsRead]

theorem readBlock_if_eq_ok_iff {Rec : Type} {selected : Bool} {reader : Reader Rec}
    {kind : RecordKind} {block : Text} {records : List Rec} :
    (if selected then readBlock reader kind block else pure []) = .ok records ↔
      List.Forall₂ reader.Reads (if selected then recordLines block else []) records := by
  cases selected with
  | true => exact readBlock_eq_ok_iff
  | false =>
      change (pure [] : Except ConfigError (List Rec)) = .ok records ↔ List.Forall₂ _ [] records
      rw [pure_eq_ok_iff, List.forall₂_nil_left_iff, eq_comm]

theorem Records.read_eq (options : Options) (selection : Selection) :
    Records.read options selection =
      ((if selection.control then
          readBlock Plugin.reader .controlPlugin (options.block "ctlplugins")
        else pure []) >>= fun controlPlugins =>
      (if selection.rpc then readBlock Plugin.reader .rpcPlugin (options.block "rpcplugins")
        else pure []) >>= fun rpcPlugins =>
      readBlock Program.reader .program (options.block "programs") >>= fun programs =>
      readBlock EventListener.reader .eventListener (options.block "eventlisteners") >>=
        fun listeners =>
      readBlock Group.reader .group (options.block "groups") >>= fun groups =>
      pure {
        controlPlugins, rpcPlugins, programs, listeners, groups
        included := options.blockLines "include" }) := by
  unfold Records.read
  cases selection.control <;> cases selection.rpc <;> rfl

theorem Records.read_eq_ok_iff {options : Options} {selection : Selection} {records : Records} :
    Records.read options selection = .ok records ↔
      List.Forall₂ Plugin.reader.Reads
        (if selection.control then recordLines (options.block "ctlplugins") else [])
        records.controlPlugins ∧
      List.Forall₂ Plugin.reader.Reads
        (if selection.rpc then recordLines (options.block "rpcplugins") else [])
        records.rpcPlugins ∧
      List.Forall₂ Program.reader.Reads (recordLines (options.block "programs")) records.programs ∧
      List.Forall₂ EventListener.reader.Reads (recordLines (options.block "eventlisteners"))
        records.listeners ∧
      List.Forall₂ Group.reader.Reads (recordLines (options.block "groups")) records.groups ∧
      records.included = options.blockLines "include" := by
  simp only [Records.read_eq, bind_eq_ok_iff, pure_eq_ok_iff, readBlock_if_eq_ok_iff,
    readBlock_eq_ok_iff]
  constructor
  · rintro ⟨_, control, _, rpc, _, programs, _, listeners, _, groups, rfl⟩
    exact ⟨control, rpc, programs, listeners, groups, rfl⟩
  · rintro ⟨control, rpc, programs, listeners, groups, included⟩
    refine ⟨_, control, _, rpc, _, programs, _, listeners, _, groups, ?_⟩
    rw [← included]

theorem Configuration.ofOptions_eq_ok_iff {options : Options} {part : Part}
    {configuration : Configuration} :
    Configuration.ofOptions options part = .ok configuration ↔
      ∃ transport records, Transport.resolve options = .ok transport ∧
        Records.read options (Selection.resolve options) = .ok records ∧
        configuration = {
          document := ⟨Configuration.sections (Selection.resolve options)
            (Daemon.resolve options part) transport (ControlClient.resolve options transport) records⟩
          daemon := Daemon.resolve options part
          client := ControlClient.resolve options transport
          path := part.configPath options } := by
  simp only [Configuration.ofOptions, bind_eq_ok_iff, pure_eq_ok_iff]
  constructor
  · rintro ⟨transport, resolved, records, read, rfl⟩
    exact ⟨transport, records, resolved, read, rfl⟩
  · rintro ⟨transport, records, resolved, read, rfl⟩
    exact ⟨transport, resolved, records, read, rfl⟩

theorem Configuration.ofOptions_eq_error_iff {options : Options} {part : Part}
    {error : ConfigError} :
    Configuration.ofOptions options part = .error error ↔
      Transport.resolve options = .error error ∨
        (∃ transport, Transport.resolve options = .ok transport) ∧
          Records.read options (Selection.resolve options) = .error error := by
  simp only [Configuration.ofOptions, bind_eq_error_iff, pure_ne_error, and_false, exists_false,
    or_false]
  constructor
  · rintro (unknown | ⟨transport, resolved, failed⟩)
    · exact Or.inl unknown
    · exact Or.inr ⟨⟨transport, resolved⟩, failed⟩
  · rintro (unknown | ⟨⟨transport, resolved⟩, failed⟩)
    · exact Or.inl unknown
    · exact Or.inr ⟨transport, resolved, failed⟩

end Supervision
