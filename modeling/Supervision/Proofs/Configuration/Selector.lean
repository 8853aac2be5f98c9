import Supervision.Proofs.Configuration.Sections
import Supervision.Proofs.Options.Agreement

/-!
What the `sections` option decides: it leaves families of sections out, and changes nothing in what
stays.
-/

namespace Supervision

open Text Outcome

inductive Family where
  | http
  | control
  | rpc
  deriving DecidableEq

namespace Family

def selector : Family → Text
  | http => "http"
  | control => "ctl"
  | rpc => "rpc"

/-- The family of a header, told by what stands before the colon. -/
def ofHeader? (header : Text) : Option Family :=
  [("inet_http_server".toList, http), ("unix_http_server".toList, http),
    ("supervisorctl".toList, control), ("ctlplugin".toList, control),
    ("rpcinterface".toList, rpc)].lookup (header.takeWhile (· != ':'))

end Family

namespace Selection

def has (selection : Selection) : Family → Bool
  | .http => selection.http
  | .control => selection.control
  | .rpc => selection.rpc

def keeps (selection : Selection) (block : Ini.Section) : Bool :=
  (Family.ofHeader? block.header).all selection.has

theorem has_parse_iff {raw : Text} {family : Family} :
    (parse raw).has family = true ↔ family.selector ∈ words raw := by
  cases family <;> exact List.contains_iff_mem

variable {selection wider : Selection} {blocks : List Ini.Section}

theorem filter_keeps_of_family {family : Family}
    (within : selection.has family = true → wider.has family = true)
    (belongs : ∀ block ∈ blocks, Family.ofHeader? block.header = some family) :
    (if wider.has family then blocks else []).filter selection.keeps =
      if selection.has family then blocks else [] := by
  have kept : ∀ block ∈ blocks, selection.keeps block = selection.has family := by
    intro block inside
    rw [keeps, belongs block inside]
    rfl
  by_cases selected : selection.has family = true
  · rw [if_pos selected, if_pos (within selected), List.filter_eq_self]
    intro block inside
    rw [kept block inside, selected]
  · rw [if_neg selected, List.filter_eq_nil_iff]
    intro block inside
    split at inside
    · rwa [kept block inside]
    · simp at inside

theorem filter_keeps_of_none (outside : ∀ block ∈ blocks, Family.ofHeader? block.header = none) :
    blocks.filter selection.keeps = blocks := by
  rw [List.filter_eq_self]
  intro block inside
  rw [keeps, outside block inside]
  rfl

end Selection

def Records.restrict (records : Records) (selection : Selection) : Records :=
  { records with
    controlPlugins := if selection.control then records.controlPlugins else []
    rpcPlugins := if selection.rpc then records.rpcPlugins else [] }

theorem forall₂_if_of_forall₂_if {α β : Type} {related : α → β → Prop} {selected wider : Bool}
    {items : List α} {values : List β} (within : selected = true → wider = true)
    (all : List.Forall₂ related (if wider then items else []) values) :
    List.Forall₂ related (if selected then items else []) (if selected then values else []) := by
  cases selected with
  | false => exact .nil
  | true =>
      rw [if_pos (within rfl)] at all
      exact all

theorem Records.read_restrict {options : Options} {selection wider : Selection} {records : Records}
    (within : ∀ family, selection.has family = true → wider.has family = true)
    (read : Records.read options wider = .ok records) :
    Records.read options selection = .ok (records.restrict selection) := by
  obtain ⟨control, rpc, others⟩ := read_eq_ok_iff.mp read
  exact read_eq_ok_iff.mpr ⟨forall₂_if_of_forall₂_if (within .control) control,
    forall₂_if_of_forall₂_if (within .rpc) rpc, others⟩

namespace Configuration

theorem sections_restrict (selection : Selection) (daemon : Daemon) (transport : Transport)
    (client : ControlClient) (records : Records) :
    sections selection daemon transport client (records.restrict selection) =
      sections selection daemon transport client records := by
  have control : controlSections selection client (records.restrict selection).controlPlugins =
      controlSections selection client records.controlPlugins := by
    unfold controlSections Records.restrict
    cases selection.control <;> rfl
  have rpc : rpcSections selection (records.restrict selection).rpcPlugins =
      rpcSections selection records.rpcPlugins := by
    unfold rpcSections Records.restrict
    cases selection.rpc <;> rfl
  rw [sections, control, rpc]
  rfl

section

variable {selection wider : Selection}
  (within : ∀ family, selection.has family = true → wider.has family = true)

include within

theorem filter_httpSections (transport : Transport) :
    (httpSections wider transport).filter selection.keeps = httpSections selection transport := by
  refine Selection.filter_keeps_of_family (within .http) fun block inside => ?_
  obtain rfl := List.mem_singleton.mp inside
  obtain ⟨endpoint, username, password⟩ := transport
  cases endpoint <;> rfl

theorem filter_controlSections (client : ControlClient) (plugins : List Plugin) :
    (controlSections wider client plugins).filter selection.keeps =
      controlSections selection client plugins := by
  refine Selection.filter_keeps_of_family (within .control) ?_
  exact List.forall_mem_cons.mpr ⟨rfl, List.forall_mem_map.mpr fun _ _ => rfl⟩

theorem filter_rpcSections (plugins : List Plugin) :
    (rpcSections wider plugins).filter selection.keeps = rpcSections selection plugins :=
  Selection.filter_keeps_of_family (within .rpc) (List.forall_mem_map.mpr fun _ _ => rfl)

/-- The sections of a selection are those of a wider one that it keeps. -/
theorem filter_sections (daemon : Daemon) (transport : Transport) (client : ControlClient)
    (records : Records) :
    (sections wider daemon transport client records).filter selection.keeps =
      sections selection daemon transport client records := by
  have daemonKept : selection.keeps daemon.daemonSection = true := rfl
  have programs : (records.programs.map fun program => program.toSection daemon.limits).filter
      selection.keeps = records.programs.map fun program => program.toSection daemon.limits :=
    Selection.filter_keeps_of_none (List.forall_mem_map.mpr fun _ _ => rfl)
  have listeners : (records.listeners.map fun listener => listener.toSection client).filter
      selection.keeps = records.listeners.map fun listener => listener.toSection client :=
    Selection.filter_keeps_of_none (List.forall_mem_map.mpr fun _ _ => rfl)
  have groups : (records.groups.map Group.toSection).filter selection.keeps =
      records.groups.map Group.toSection :=
    Selection.filter_keeps_of_none (List.forall_mem_map.mpr fun _ _ => rfl)
  have included : (includeSection records.included).toList.filter selection.keeps =
      (includeSection records.included).toList := by
    refine Selection.filter_keeps_of_none fun block inside => ?_
    obtain ⟨-, rfl⟩ := includeSection_eq_some_iff.mp (Option.mem_toList.mp inside)
    rfl
  simp only [sections, List.filter_cons_of_pos daemonKept, List.filter_append,
    filter_httpSections within, filter_controlSections within, filter_rpcSections within,
    programs, listeners, groups, included]

end

end Configuration

/-! Option sets that differ in their selectors. -/

section

variable {narrow wide : Text}
  (within : ∀ family ∈ Selection.selectors, family ∈ words narrow → family ∈ words wide)

include within in
theorem Selection.has_of_within (family : Family) :
    (Selection.parse narrow).has family = true → (Selection.parse wide).has family = true := by
  rw [has_parse_iff, has_parse_iff]
  exact within family.selector (by cases family <;> decide)

theorem Selection.eq_of_has {selection other : Selection}
    (same : ∀ family, selection.has family = true ↔ other.has family = true) :
    selection = other := by
  have http := Bool.eq_iff_iff.mpr (same .http)
  have control := Bool.eq_iff_iff.mpr (same .control)
  have rpc := Bool.eq_iff_iff.mpr (same .rpc)
  cases selection
  cases other
  simp_all [has]

theorem Transport.resolve_insert_sections (options : Options) :
    Transport.resolve (options.insert "sections" narrow) =
      Transport.resolve (options.insert "sections" wide) :=
  Transport.resolve_congr (Options.agreeOn_insert_insert (by decide)) fun kind _ =>
    Options.agreeOn_insert_insert (by cases kind <;> decide)

namespace Configuration

variable {options : Options} {part : Part}

include within in
theorem ofOptions_of_narrower {wider : Configuration}
    (generated : Configuration.ofOptions (options.insert "sections" wide) part = .ok wider) :
    Configuration.ofOptions (options.insert "sections" narrow) part = .ok { wider with
      document := ⟨wider.document.sections.filter (Selection.parse narrow).keeps⟩ } := by
  have agree : ∀ names, "sections".toList ∉ names → Options.AgreeOn names
      (options.insert "sections" wide) (options.insert "sections" narrow) :=
    fun _ apart => Options.agreeOn_insert_insert apart
  have daemon := Daemon.resolve_congr (agree _ (by decide)) part
  have path := Part.configPath_congr (agree _ (by decide)) part
  obtain ⟨transport, records, resolved, read, rfl⟩ := ofOptions_eq_ok_iff.mp generated
  have client := ControlClient.resolve_congr (agree _ (by decide)) transport
  rw [Selection.resolve_insert] at read
  have narrowed := Records.read_restrict (Selection.has_of_within within) read
  refine ofOptions_eq_ok_iff.mpr
    ⟨transport, records.restrict (Selection.parse narrow), ?_, ?_, ?_⟩
  · rw [Transport.resolve_insert_sections, resolved]
  · rw [Selection.resolve_insert, Records.read_congr (agree _ (by decide)), narrowed]
  · rw [daemon, client, path, Selection.resolve_insert, Selection.resolve_insert,
      filter_sections (Selection.has_of_within within), sections_restrict]

/-- Selecting more only adds. What can be made with a selector can be made with every narrower one;
daemon, client and path are the same, the sections are those of the wider one without the families
that are left out, and every event listener stays as it is. Selectors of the same families give the
same configuration, or fail alike. -/
theorem selector_narrowed (options : Options) (part : Part) {narrow wide : Text}
    (within : ∀ family ∈ Selection.selectors, family ∈ words narrow → family ∈ words wide) :
    (∀ wider, Configuration.ofOptions (options.insert "sections" wide) part = .ok wider →
      ∃ narrower, Configuration.ofOptions (options.insert "sections" narrow) part = .ok narrower ∧
        narrower.daemon = wider.daemon ∧ narrower.client = wider.client ∧
        narrower.path = wider.path ∧
        narrower.document.sections.Sublist wider.document.sections ∧
        narrower.document.sections =
          wider.document.sections.filter (Selection.parse narrow).keeps ∧
        ∀ block ∈ wider.document.sections, "eventlistener:".toList <+: block.header →
          block ∈ narrower.document.sections) ∧
    ((∀ family ∈ Selection.selectors, family ∈ words wide → family ∈ words narrow) →
      Configuration.ofOptions (options.insert "sections" narrow) part =
        Configuration.ofOptions (options.insert "sections" wide) part) := by
  constructor
  · intro wider generated
    refine ⟨_, ofOptions_of_narrower within generated, rfl, rfl, rfl, List.filter_sublist, rfl, ?_⟩
    intro block inside headed
    refine List.mem_filter.mpr ⟨inside, ?_⟩
    obtain ⟨name, equal⟩ := headed
    rw [Selection.keeps, ← equal]
    rfl
  · intro back
    have selection : Selection.parse narrow = Selection.parse wide := Selection.eq_of_has fun family =>
      ⟨Selection.has_of_within within family, Selection.has_of_within back family⟩
    refine ofOptions_congr (Options.agreeOn_insert_insert (by decide)) ?_
      (Transport.resolve_insert_sections options) part
    rw [Selection.resolve_insert, Selection.resolve_insert, selection]

theorem selector_narrowed_to_listeners :
    let options := Options.ofList [
      ("ctlplugins".toList, "monitor my.module:factory".toList),
      ("eventlisteners".toList, "watch TICK_60 ./watch".toList),
      ("user".toList, "admin".toList)]
    ∃ wider narrower,
      Configuration.ofOptions (options.insert "sections" "ctl http") ⟨"/srv", "main"⟩ = .ok wider ∧
      Configuration.ofOptions (options.insert "sections" "all\thttps") ⟨"/srv", "main"⟩ =
        .ok narrower ∧
      narrower.document.sections.Sublist wider.document.sections ∧
      narrower.document.headers = ["supervisord".toList, "eventlistener:watch".toList] := by
  intro options
  have within : ∀ family ∈ Selection.selectors,
      family ∈ words "all\thttps".toList → family ∈ words "ctl http".toList := by
    decide +kernel
  obtain ⟨wider, generated⟩ : ∃ wider,
      Configuration.ofOptions (options.insert "sections" "ctl http") ⟨"/srv", "main"⟩ = .ok wider :=
    exists_eq_ok_of_isOk (by decide +kernel)
  obtain ⟨narrower, made, -, -, -, sublist, -⟩ :=
    (selector_narrowed options ⟨"/srv", "main"⟩ within).1 wider generated
  obtain ⟨other, madeOther, headers⟩ : ∃ other,
      Configuration.ofOptions (options.insert "sections" "all\thttps") ⟨"/srv", "main"⟩ =
        .ok other ∧
      decide (other.document.headers =
        ["supervisord".toList, "eventlistener:watch".toList]) = true :=
    exists_eq_ok_of_any (by decide +kernel)
  obtain rfl : narrower = other := Except.ok.inj (made.symm.trans madeOther)
  exact ⟨wider, narrower, generated, made, sublist, of_decide_eq_true headers⟩

end Configuration

end

end Supervision
