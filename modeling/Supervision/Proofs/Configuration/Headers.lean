import Supervision.Proofs.Options.Agreement
import Supervision.Proofs.Record.Block
import Supervision.Proofs.Record.Names

/-!
The headers of a configuration, read off the options: which sections there are, and in which order.
-/

namespace Supervision

open Text Outcome

/-- Where the lines of a kind have the name of their record. -/
def RecordKind.namePosition : RecordKind → Nat
  | .program => 1
  | .eventListener => 0
  | .group => 1
  | .controlPlugin => 0
  | .rpcPlugin => 0

def RecordKind.heading : RecordKind → String
  | .program => "program:"
  | .eventListener => "eventlistener:"
  | .group => "group:"
  | .controlPlugin => "ctlplugin:"
  | .rpcPlugin => "rpcinterface:"

namespace Options

def headersOf (options : Options) (kind : RecordKind) : List Text :=
  (recordLines (options.block kind.option)).map fun line =>
    kind.heading.toList ++ wordAt kind.namePosition line

/-- The headers that the raw texts ask for. -/
def headers (options : Options) : List Text :=
  "supervisord".toList ::
    ((if options.Selects "http" then
        [if options.get? "http-socket" = some "unix".toList then "unix_http_server".toList
          else "inet_http_server".toList]
      else []) ++
    (if options.Selects "ctl" then "supervisorctl".toList :: options.headersOf .controlPlugin
      else []) ++
    (if options.Selects "rpc" then
        "rpcinterface:supervisor".toList :: options.headersOf .rpcPlugin
      else []) ++
    options.headersOf .program ++ options.headersOf .eventListener ++ options.headersOf .group ++
    (if recordLines (options.block "include") = [] then [] else ["include".toList]))

end Options

theorem Transport.header_httpSection {options : Options} {transport : Transport}
    (resolved : Transport.resolve options = .ok transport) :
    transport.httpSection.header =
      if options.get? "http-socket" = some "unix".toList then "unix_http_server".toList
      else "inet_http_server".toList := by
  rw [Transport.eq_of_resolve resolved]
  by_cases unix : options.OnUnixSocket
  · rw [if_pos unix, if_pos (show options.get? "http-socket" = _ from unix)]
    rfl
  · rw [if_neg unix, if_neg (show ¬options.get? "http-socket" = _ from unix)]
    rfl

theorem header_includeSection (files : List Text) :
    (includeSection files).toList.map Ini.Section.header =
      if files = [] then [] else ["include".toList] := by
  cases files <;> rfl

theorem Options.map_header_eq {Rec : Type} {reader : Reader Rec} {name : Rec → Text}
    {options : Options} {records : List Rec} (kind : RecordKind) (toSection : Rec → Ini.Section)
    (named : reader.NamedAt name kind.namePosition)
    (headed : ∀ record, (toSection record).header = kind.heading.toList ++ name record)
    (all : List.Forall₂ reader.Reads (recordLines (options.block kind.option)) records) :
    (records.map toSection).map Ini.Section.header = options.headersOf kind := by
  calc (records.map toSection).map Ini.Section.header
      = (records.map name).map (kind.heading.toList ++ ·) := by simp [headed]
    _ = options.headersOf kind := by
        rw [named.map_name_eq all, List.map_map]
        rfl

/-! The parts of a document. -/

namespace Configuration

variable {options : Options}

theorem map_header_httpSections {transport : Transport}
    (resolved : Transport.resolve options = .ok transport) :
    (httpSections (Selection.resolve options) transport).map Ini.Section.header =
      if options.Selects "http" then
        [if options.get? "http-socket" = some "unix".toList then "unix_http_server".toList
          else "inet_http_server".toList]
      else [] := by
  have wanted := Selection.http_resolve options
  unfold httpSections
  by_cases selected : options.Selects "http"
  · rw [if_pos (wanted.mpr selected), if_pos selected, ← Transport.header_httpSection resolved]
    rfl
  · rw [if_neg (mt wanted.mp selected), if_neg selected]
    rfl

theorem map_header_controlSections (client : ControlClient) {plugins : List Plugin}
    (read : List.Forall₂ Plugin.reader.Reads
      (if (Selection.resolve options).control then recordLines (options.block "ctlplugins") else [])
      plugins) :
    (controlSections (Selection.resolve options) client plugins).map Ini.Section.header =
      if options.Selects "ctl" then "supervisorctl".toList :: options.headersOf .controlPlugin
      else [] := by
  have wanted := Selection.control_resolve options
  unfold controlSections
  by_cases selected : options.Selects "ctl"
  · rw [if_pos (wanted.mpr selected)] at read
    rw [if_pos (wanted.mpr selected), if_pos selected, List.map_cons,
      Options.map_header_eq .controlPlugin Plugin.controlSection Plugin.namedAt (fun _ => rfl) read]
    rfl
  · rw [if_neg (mt wanted.mp selected), if_neg selected]
    rfl

theorem map_header_rpcSections {plugins : List Plugin}
    (read : List.Forall₂ Plugin.reader.Reads
      (if (Selection.resolve options).rpc then recordLines (options.block "rpcplugins") else [])
      plugins) :
    (rpcSections (Selection.resolve options) plugins).map Ini.Section.header =
      if options.Selects "rpc" then
        "rpcinterface:supervisor".toList :: options.headersOf .rpcPlugin
      else [] := by
  have wanted := Selection.rpc_resolve options
  unfold rpcSections
  by_cases selected : options.Selects "rpc"
  · rw [if_pos (wanted.mpr selected)] at read
    rw [if_pos (wanted.mpr selected), if_pos selected, List.map_cons, List.map_cons,
      Options.map_header_eq .rpcPlugin Plugin.rpcSection Plugin.namedAt (fun _ => rfl) read]
    rfl
  · rw [if_neg (mt wanted.mp selected), if_neg selected]
    rfl

theorem headers_document {part : Part} {configuration : Configuration}
    (generated : Configuration.ofOptions options part = .ok configuration) :
    configuration.document.headers = options.headers := by
  obtain ⟨transport, records, resolved, read, rfl⟩ := Configuration.ofOptions_eq_ok_iff.mp generated
  obtain ⟨control, rpc, programs, listeners, groups, included⟩ := Records.read_eq_ok_iff.mp read
  have programHeaders := Options.map_header_eq .program
    (fun program => program.toSection (Daemon.resolve options part).limits)
    Program.namedAt (fun _ => rfl) programs
  have listenerHeaders := Options.map_header_eq .eventListener
    (fun listener => listener.toSection (ControlClient.resolve options transport))
    EventListener.namedAt (fun _ => rfl) listeners
  have groupHeaders := Options.map_header_eq .group Group.toSection Group.namedAt (fun _ => rfl) groups
  have noFiles : records.included = [] ↔ recordLines (options.block "include") = [] := by
    rw [included, Options.blockLines, Options.inkLines_eq, List.map_eq_nil_iff]
  rw [Ini.Document.headers, sections, List.map_cons]
  simp only [List.map_append, map_header_httpSections resolved,
    map_header_controlSections _ control, map_header_rpcSections rpc, programHeaders,
    listenerHeaders, groupHeaders, header_includeSection, noFiles]
  rfl

end Configuration

theorem Options.namePosition_lt {options : Options} {records : Records}
    (read : Records.read options (Selection.resolve options) = .ok records) {kind : RecordKind}
    (wanted : kind ∈ options.kindsRead) :
    ∀ line ∈ recordLines (options.block kind.option),
      kind.namePosition < (words line).length := by
  obtain ⟨control, rpc, programs, listeners, groups, -⟩ := Records.read_eq_ok_iff.mp read
  cases kind with
  | program => exact Program.namedAt.lt_length programs
  | eventListener => exact EventListener.namedAt.lt_length listeners
  | group => exact Group.namedAt.lt_length groups
  | controlPlugin =>
      rw [if_pos ((Selection.control_resolve options).mpr (controlPlugin_mem_kindsRead.mp wanted))]
        at control
      exact Plugin.namedAt.lt_length control
  | rpcPlugin =>
      rw [if_pos ((Selection.rpc_resolve options).mpr (rpcPlugin_mem_kindsRead.mp wanted))] at rpc
      exact Plugin.namedAt.lt_length rpc

/-! The selector matters only for the families that it selects. -/

namespace Options

variable {options : Options} {raw : Text}

theorem selection_insert_sections
    (same : ∀ family ∈ Selection.selectors, family ∈ words raw ↔ options.Selects family) :
    Selection.resolve (options.insert "sections" raw) = Selection.resolve options := by
  have contains : ∀ family ∈ Selection.selectors,
      (words raw).contains family = (words (Selection.selector options)).contains family := by
    intro family known
    rw [Bool.eq_iff_iff, List.contains_iff_mem, List.contains_iff_mem]
    exact same family known
  rw [Selection.resolve_insert, Selection.resolve, Selection.parse, Selection.parse,
    contains _ (by decide), contains _ (by decide), contains _ (by decide)]

end Options

theorem Configuration.ofOptions_insert_sections {options : Options} {raw : Text}
    (same : ∀ family ∈ Selection.selectors, family ∈ words raw ↔ options.Selects family)
    (part : Part) :
    Configuration.ofOptions (options.insert "sections" raw) part =
      Configuration.ofOptions options part := by
  have transport : Transport.resolve (options.insert "sections" raw) = Transport.resolve options :=
    Transport.resolve_congr (Options.agreeOn_insert (by decide)) fun kind _ =>
      Options.agreeOn_insert (by cases kind <;> decide)
  exact ofOptions_congr (Options.agreeOn_insert (by decide))
    (Options.selection_insert_sections same) transport part

/-- The headers of a configuration are those that the raw texts ask for, every name stands in its
line, and another selector of the same families gives the same configuration. -/
theorem Configuration.headers_from_options {options : Options} {part : Part}
    {configuration : Configuration}
    (generated : Configuration.ofOptions options part = .ok configuration) :
    configuration.document.headers = options.headers ∧
    (∀ kind ∈ options.kindsRead, ∀ line ∈ recordLines (options.block kind.option),
      kind.namePosition < (words line).length) ∧
    (∀ raw, (∀ family ∈ Selection.selectors, family ∈ words raw ↔ options.Selects family) →
      Configuration.ofOptions (options.insert "sections" raw) part = .ok configuration) := by
  obtain ⟨transport, records, resolved, read, -⟩ := Configuration.ofOptions_eq_ok_iff.mp generated
  refine ⟨headers_document generated, fun kind wanted => Options.namePosition_lt read wanted, ?_⟩
  intro raw same
  rw [ofOptions_insert_sections same, generated]

theorem Configuration.headers_from_options_with_plugin :
    let options := Options.ofList [
      ("ctlplugins".toList, "monitor my.module:factory".toList),
      ("programs".toList, "10 web ./run\n\n 20  worker (user=www) ./work [-v] true".toList),
      ("sections".toList, "ctl http ctl other".toList)]
    ∃ configuration, Configuration.ofOptions options ⟨"/srv", "main"⟩ = .ok configuration ∧
      configuration.document.headers =
        ["supervisord".toList, "inet_http_server".toList, "supervisorctl".toList,
          "ctlplugin:monitor".toList, "program:web".toList, "program:worker".toList] := by
  intro options
  have headers : options.headers =
      ["supervisord".toList, "inet_http_server".toList, "supervisorctl".toList,
        "ctlplugin:monitor".toList, "program:web".toList, "program:worker".toList] := by
    decide +kernel
  obtain ⟨configuration, generated⟩ :
      ∃ configuration, Configuration.ofOptions options ⟨"/srv", "main"⟩ = .ok configuration :=
    exists_eq_ok_of_isOk (by decide +kernel)
  exact ⟨configuration, generated, (headers_from_options generated).1.trans headers⟩

end Supervision
