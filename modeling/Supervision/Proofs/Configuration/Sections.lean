import Supervision.Proofs.Configuration.Reading

/-!
Where the sections of a configuration come from: each is made of the settings of the daemon, of its
server or of its client, of one line of a block, or of the files to include.
-/

namespace Supervision

open Text Outcome

namespace Reader

variable {Rec : Type} {reader : Reader Rec} {record : Rec}

theorem mem_records_iff {lines : List Text} {records : List Rec}
    (all : List.Forall₂ reader.Reads lines records) :
    record ∈ records ↔ ∃ line ∈ lines, reader.Reads line record := by
  induction all with
  | nil => simp
  | cons reads _ ih =>
      rw [List.mem_cons, List.exists_mem_cons_iff, ← ih]
      constructor
      · rintro (rfl | later)
        · exact Or.inl reads
        · exact Or.inr later
      · rintro (here | later)
        · exact Or.inl (here.unique reads)
        · exact Or.inr later

end Reader

def Options.Lists {Rec : Type} (options : Options) (kind : RecordKind) (reader : Reader Rec)
    (record : Rec) : Prop :=
  ∃ line ∈ recordLines (options.block kind.option), reader.Reads line record

theorem Options.mem_iff_lists_of_selected {Rec : Type} {options : Options} {kind : RecordKind}
    {reader : Reader Rec} {record : Rec} {records : List Rec} {selected : Bool}
    (all : List.Forall₂ reader.Reads
      (if selected then recordLines (options.block kind.option) else []) records) :
    selected = true → (record ∈ records ↔ options.Lists kind reader record) := by
  rintro rfl
  exact Reader.mem_records_iff all

theorem EventListener.entries_toSection (listener : EventListener) (client : ControlClient) :
    (listener.toSection client).entries = [
      ("command".toList, commandLine listener.command listener.arguments),
      ("events".toList, listener.events),
      ("process_name".toList, listener.name),
      ("environment".toList, listener.environment client)] ++
        listener.extras.pairs.filter fun pair => pair.1 != "environment".toList :=
  rfl

theorem includeSection_eq_some_iff {files : List Text} {block : Ini.Section} :
    includeSection files = some block ↔
      files ≠ [] ∧ block = ⟨"include", [("files", joinWith [' '] files)]⟩ := by
  cases files with
  | nil => simp [includeSection]
  | cons first files => simp [includeSection, eq_comm]

namespace Configuration

/-- What a section of a configuration is made of. -/
inductive Origin (options : Options) (configuration : Configuration) : Ini.Section → Prop
  | daemon : Origin options configuration configuration.daemon.daemonSection
  | server {transport : Transport} : options.Selects "http" →
      Transport.resolve options = .ok transport →
      Origin options configuration transport.httpSection
  | client : options.Selects "ctl" →
      Origin options configuration configuration.client.clientSection
  | controlPlugin {plugin : Plugin} : options.Selects "ctl" →
      options.Lists .controlPlugin Plugin.reader plugin →
      Origin options configuration plugin.controlSection
  | rpcMain : options.Selects "rpc" → Origin options configuration Plugin.main.rpcSection
  | rpcPlugin {plugin : Plugin} : options.Selects "rpc" →
      options.Lists .rpcPlugin Plugin.reader plugin →
      Origin options configuration plugin.rpcSection
  | program {program : Program} : options.Lists .program Program.reader program →
      Origin options configuration (program.toSection configuration.daemon.limits)
  | listener {listener : EventListener} :
      options.Lists .eventListener EventListener.reader listener →
      Origin options configuration (listener.toSection configuration.client)
  | group {group : Group} : options.Lists .group Group.reader group →
      Origin options configuration group.toSection
  | included {block : Ini.Section} : block ∈ includeSection (options.blockLines "include") →
      Origin options configuration block

variable {options : Options} {block : Ini.Section}

theorem mem_httpSections_iff {transport : Transport} :
    block ∈ httpSections (Selection.resolve options) transport ↔
      options.Selects "http" ∧ block = transport.httpSection := by
  rw [← Selection.http_resolve]
  unfold httpSections
  split <;> simp_all

theorem mem_controlSections_iff {client : ControlClient} {plugins : List Plugin}
    (read : List.Forall₂ Plugin.reader.Reads
      (if (Selection.resolve options).control then recordLines (options.block "ctlplugins") else [])
      plugins) :
    block ∈ controlSections (Selection.resolve options) client plugins ↔
      options.Selects "ctl" ∧ (block = client.clientSection ∨
        ∃ plugin, options.Lists .controlPlugin Plugin.reader plugin ∧
          block = plugin.controlSection) := by
  have listed : ∀ plugin, (Selection.resolve options).control = true →
      (plugin ∈ plugins ↔ options.Lists .controlPlugin Plugin.reader plugin) :=
    fun _ => Options.mem_iff_lists_of_selected read
  rw [← Selection.control_resolve]
  unfold controlSections
  split
  case isTrue selected =>
    simp only [List.mem_cons, List.mem_map, selected, true_and, listed _ selected]
    simp only [eq_comm]
  case isFalse unselected => simp [unselected]

theorem mem_rpcSections_iff {plugins : List Plugin}
    (read : List.Forall₂ Plugin.reader.Reads
      (if (Selection.resolve options).rpc then recordLines (options.block "rpcplugins") else [])
      plugins) :
    block ∈ rpcSections (Selection.resolve options) plugins ↔
      options.Selects "rpc" ∧ (block = Plugin.main.rpcSection ∨
        ∃ plugin, options.Lists .rpcPlugin Plugin.reader plugin ∧ block = plugin.rpcSection) := by
  have listed : ∀ plugin, (Selection.resolve options).rpc = true →
      (plugin ∈ plugins ↔ options.Lists .rpcPlugin Plugin.reader plugin) :=
    fun _ => Options.mem_iff_lists_of_selected read
  rw [← Selection.rpc_resolve]
  unfold rpcSections
  split
  case isTrue selected =>
    simp only [List.map_cons, List.mem_cons, List.mem_map, selected, true_and, listed _ selected]
    simp only [eq_comm]
  case isFalse unselected => simp [unselected]

theorem mem_sections_iff {part : Part} {configuration : Configuration}
    (generated : Configuration.ofOptions options part = .ok configuration) :
    block ∈ configuration.document.sections ↔ Origin options configuration block := by
  obtain ⟨transport, records, resolved, read, rfl⟩ := Configuration.ofOptions_eq_ok_iff.mp generated
  obtain ⟨control, rpc, programs, listeners, groups, included⟩ := Records.read_eq_ok_iff.mp read
  simp only [sections, List.mem_cons, List.mem_append, mem_httpSections_iff,
    mem_controlSections_iff control, mem_rpcSections_iff rpc, List.mem_map,
    Reader.mem_records_iff programs, Reader.mem_records_iff listeners,
    Reader.mem_records_iff groups, included, Option.mem_toList, or_assoc]
  constructor
  · rintro (rfl | ⟨selected, rfl⟩ | ⟨selected, rfl | ⟨plugin, listed, rfl⟩⟩ |
      ⟨selected, rfl | ⟨plugin, listed, rfl⟩⟩ | ⟨program, listed, rfl⟩ | ⟨listener, listed, rfl⟩ |
      ⟨group, listed, rfl⟩ | files)
    · exact .daemon
    · exact .server selected resolved
    · exact .client selected
    · exact .controlPlugin selected listed
    · exact .rpcMain selected
    · exact .rpcPlugin selected listed
    · exact .program listed
    · exact .listener listed
    · exact .group listed
    · exact .included files
  · intro origin
    cases origin with
    | daemon => exact Or.inl rfl
    | @server other selected otherResolved =>
        obtain rfl : transport = other := Except.ok.inj (resolved.symm.trans otherResolved)
        exact Or.inr (Or.inl ⟨selected, rfl⟩)
    | client selected => exact Or.inr (Or.inr (Or.inl ⟨selected, Or.inl rfl⟩))
    | controlPlugin selected listed =>
        exact Or.inr (Or.inr (Or.inl ⟨selected, Or.inr ⟨_, listed, rfl⟩⟩))
    | rpcMain selected => exact Or.inr (Or.inr (Or.inr (Or.inl ⟨selected, Or.inl rfl⟩)))
    | rpcPlugin selected listed =>
        exact Or.inr (Or.inr (Or.inr (Or.inl ⟨selected, Or.inr ⟨_, listed, rfl⟩⟩)))
    | program listed => exact Or.inr (Or.inr (Or.inr (Or.inr (Or.inl ⟨_, listed, rfl⟩))))
    | listener listed => exact Or.inr (Or.inr (Or.inr (Or.inr (Or.inr (Or.inl ⟨_, listed, rfl⟩)))))
    | group listed =>
        exact Or.inr (Or.inr (Or.inr (Or.inr (Or.inr (Or.inr (Or.inl ⟨_, listed, rfl⟩))))))
    | included files =>
        exact Or.inr (Or.inr (Or.inr (Or.inr (Or.inr (Or.inr (Or.inr files))))))

/-- Sections made from the same records are related one by one when each part that differs is. -/
theorem forall₂_sections {related : Ini.Section → Ini.Section → Prop}
    (unchanged : ∀ block, related block block) {daemon otherDaemon : Daemon}
    {transport otherTransport : Transport} {client otherClient : ControlClient}
    (ofDaemon : related daemon.daemonSection otherDaemon.daemonSection)
    (server : related transport.httpSection otherTransport.httpSection)
    (ofClient : related client.clientSection otherClient.clientSection)
    (program : ∀ program : Program,
      related (program.toSection daemon.limits) (program.toSection otherDaemon.limits))
    (listener : ∀ listener : EventListener,
      related (listener.toSection client) (listener.toSection otherClient))
    (selection : Selection) (records : Records) :
    List.Forall₂ related (sections selection daemon transport client records)
      (sections selection otherDaemon otherTransport otherClient records) := by
  have same : ∀ blocks : List Ini.Section, List.Forall₂ related blocks blocks :=
    fun blocks => List.forall₂_same.mpr fun block _ => unchanged block
  have http : List.Forall₂ related (httpSections selection transport)
      (httpSections selection otherTransport) := by
    unfold httpSections
    split
    · exact .cons server .nil
    · exact .nil
  have control : List.Forall₂ related (controlSections selection client records.controlPlugins)
      (controlSections selection otherClient records.controlPlugins) := by
    unfold controlSections
    split
    · exact .cons ofClient (same _)
    · exact .nil
  have programs := forall₂_map_map_of_forall records.programs program
  have listeners := forall₂_map_map_of_forall records.listeners listener
  unfold sections
  exact .cons ofDaemon (List.rel_append (List.rel_append (List.rel_append (List.rel_append
    (List.rel_append (List.rel_append http control) (same _)) programs) listeners) (same _))
    (same _))

end Configuration

end Supervision
