import Supervision.Proofs.Configuration.Directives
import Supervision.Proofs.Configuration.Text
import Supervision.Proofs.Ini.HeaderLines

/-!
Which lines of a configuration read as headers: those of its sections, and the settings of program
and event listener lines that begin with one bracket and end with the other.
-/

namespace Supervision

open Text Outcome Ini

/-! Headers are words. -/

theorem Text.Word.append {heading word : Text} (fixed : Word heading) (ink : Word word) :
    Word (heading ++ word) := by
  refine ⟨List.append_ne_nil_of_right_ne_nil heading ink.1, ?_⟩
  rw [List.forall_mem_append]
  exact ⟨fixed.2, ink.2⟩

namespace Configuration

variable {options : Options} {part : Part} {configuration : Configuration} {block : Ini.Section}

theorem Origin.word_header (origin : Origin options configuration block) : Word block.header := by
  cases origin with
  | daemon => exact show Word "supervisord".toList by decide
  | @server transport _ _ =>
      obtain ⟨endpoint, username, password⟩ := transport
      cases endpoint with
      | inet address => exact show Word "inet_http_server".toList by decide
      | unix file mode => exact show Word "unix_http_server".toList by decide
  | client _ => exact show Word "supervisorctl".toList by decide
  | controlPlugin _ listed =>
      obtain ⟨line, -, reads⟩ := listed
      exact Word.append (by decide) (Plugin.words_of_reads reads).1
  | rpcMain _ => exact show Word "rpcinterface:supervisor".toList by decide
  | rpcPlugin _ listed =>
      obtain ⟨line, -, reads⟩ := listed
      exact Word.append (by decide) (Plugin.words_of_reads reads).1
  | program listed =>
      obtain ⟨line, -, reads⟩ := listed
      exact Word.append (by decide) (Program.held_of_reads reads).name
  | listener listed =>
      obtain ⟨line, -, reads⟩ := listed
      exact Word.append (by decide) (EventListener.held_of_reads reads).name
  | group listed =>
      obtain ⟨line, -, reads⟩ := listed
      exact Word.append (by decide) (Group.held_of_reads reads).name
  | included found =>
      obtain ⟨-, rfl⟩ := includeSection_eq_some_iff.mp found
      exact show Word "include".toList by decide

end Configuration

/-! Entries that begin with a bracket. -/

theorem Program.mem_extras_of_head {program : Program} {limits : LogLimits} {entry : Text × Text}
    (member : entry ∈ (program.toSection limits).entries) (opens : entry.1.head? = some '[') :
    entry ∈ program.extras.pairs := by
  have fixedPlain : ∀ key ∈ ["command".toList, "process_name".toList, "directory".toList,
      "priority".toList, "redirect_stderr".toList, "user".toList], key.head? ≠ some '[' := by
    decide
  have limitPlain : ∀ key ∈ ["stdout_logfile_maxbytes".toList, "stderr_logfile_maxbytes".toList],
      key.head? ≠ some '[' := by
    decide
  rcases List.mem_append.mp member with early | added
  · rcases List.mem_append.mp early with fixed | extra
    · have known := (Section.keys_ofSettings_sublist _ _).subset (List.mem_map_of_mem fixed)
      exact absurd opens (fixedPlain entry.1 known)
    · exact extra
  · have known := limits.keys_sublist.subset (List.mem_map_of_mem (List.mem_filter.mp added).1)
    exact absurd opens (limitPlain entry.1 known)

theorem EventListener.mem_extras_of_head {listener : EventListener} {client : ControlClient}
    {entry : Text × Text} (member : entry ∈ (listener.toSection client).entries)
    (opens : entry.1.head? = some '[') : entry ∈ listener.extras.pairs := by
  have fixedPlain : ∀ key ∈ EventListener.fixedKeys, key.head? ≠ some '[' := by decide
  rw [EventListener.entries_toSection] at member
  rcases List.mem_append.mp member with fixed | extra
  · exact absurd opens (fixedPlain entry.1 (List.mem_map_of_mem fixed))
  · exact (List.mem_filter.mp extra).1

theorem Program.mem_toSection_of_mem_extras {program : Program} {limits : LogLimits}
    {pair : Text × Text} (member : pair ∈ program.extras.pairs) :
    pair ∈ (program.toSection limits).entries :=
  List.mem_append_left _ (List.mem_append_right _ member)

theorem EventListener.mem_toSection_of_mem_extras {listener : EventListener}
    {client : ControlClient} {pair : Text × Text} (member : pair ∈ listener.extras.pairs)
    (other : pair.1 ≠ "environment".toList) : pair ∈ (listener.toSection client).entries := by
  rw [EventListener.entries_toSection]
  exact List.mem_append_right _ (List.mem_filter.mpr ⟨member, bne_iff_ne.mpr other⟩)

/-- No setting reads as a header. -/
def Extras.Closed (extras : Extras) : Prop :=
  ∀ pair ∈ extras.pairs, ¬opensSection pair = true

theorem Ini.head?_of_opensSection {entry : Text × Text} (opens : opensSection entry = true) :
    entry.1.head? = some '[' := by
  simp only [opensSection, Bool.and_eq_true, beq_iff_eq] at opens
  exact opens.1

theorem Program.openers_toSection_eq_nil_iff {program : Program} {limits : LogLimits} :
    (program.toSection limits).openers = [] ↔ program.extras.Closed := by
  rw [Section.openers, List.filter_eq_nil_iff]
  constructor
  · exact fun none pair member => none pair (mem_toSection_of_mem_extras member)
  · intro closed entry member opens
    exact closed entry (mem_extras_of_head member (head?_of_opensSection opens)) opens

theorem EventListener.openers_toSection_eq_nil_iff {listener : EventListener}
    {client : ControlClient} :
    (listener.toSection client).openers = [] ↔ listener.extras.Closed := by
  rw [Section.openers, List.filter_eq_nil_iff]
  constructor
  · intro none pair member opens
    have other : pair.1 ≠ "environment".toList := by
      intro same
      have bracket := head?_of_opensSection opens
      rw [same] at bracket
      exact absurd bracket (by decide)
    exact none pair (mem_toSection_of_mem_extras member other) opens
  · intro closed entry member opens
    exact closed entry (mem_extras_of_head member (head?_of_opensSection opens)) opens

namespace Configuration

variable {options : Options} {part : Part} {configuration : Configuration} {block : Ini.Section}

theorem Origin.extra_of_head (origin : Origin options configuration block) {entry : Text × Text}
    (member : entry ∈ block.entries) (opens : entry.1.head? = some '[') :
    (∃ program, options.Lists .program Program.reader program ∧
      block = program.toSection configuration.daemon.limits ∧ entry ∈ program.extras.pairs) ∨
    ∃ listener, options.Lists .eventListener EventListener.reader listener ∧
      block = listener.toSection configuration.client ∧ entry ∈ listener.extras.pairs := by
  have directivesPlain : ∀ keys ∈ directives, ∀ key ∈ keys, key.head? ≠ some '[' := by decide
  rcases origin.keys_sublist_or with
    ⟨keys, known, sublist⟩ | ⟨program, listed, rfl⟩ | ⟨listener, listed, rfl⟩
  · have inKeys := sublist.subset (List.mem_map_of_mem member)
    exact absurd opens (directivesPlain keys known entry.1 inKeys)
  · exact Or.inl ⟨program, listed, rfl, Program.mem_extras_of_head member opens⟩
  · exact Or.inr ⟨listener, listed, rfl, EventListener.mem_extras_of_head member opens⟩

theorem Origin.word_of_head (origin : Origin options configuration block) {entry : Text × Text}
    (member : entry ∈ block.entries) (opens : entry.1.head? = some '[') :
    Word entry.1 ∧ Word entry.2 := by
  rcases origin.extra_of_head member opens with
    ⟨program, ⟨line, -, reads⟩, -, extra⟩ | ⟨listener, ⟨line, -, reads⟩, -, extra⟩
  · exact (Program.held_of_reads reads).extras entry extra
  · exact (EventListener.held_of_reads reads).extras entry extra

theorem returnless_document (generated : Configuration.ofOptions options part = .ok configuration) :
    configuration.document.Returnless := by
  intro line member opens
  rcases Document.mem_lines member with rfl | ⟨block, inside, found⟩
  · simp at opens
  have origin := (mem_sections_iff generated).mp inside
  rcases List.mem_cons.mp found with rfl | isEntry
  · have absent : '\r' ∉ block.header := origin.word_header.blank_not_mem (by decide)
    simp [headerLine, absent]
  · obtain ⟨entry, inBlock, rfl⟩ := List.mem_map.mp isEntry
    have bracket : entry.1.head? = some '[' := by
      rw [head?_entryLine] at opens
      cases first : entry.1.head? with
      | none => simp [first] at opens
      | some c => rw [first] at opens; exact opens
    -- Only settings begin with a bracket, and settings are made of words.
    obtain ⟨key, value⟩ := origin.word_of_head inBlock bracket
    have inKey : '\r' ∉ entry.1 := key.blank_not_mem (by decide)
    have inValue : '\r' ∉ entry.2 := value.blank_not_mem (by decide)
    unfold entryLine
    split <;> simp [inKey, inValue]

theorem openers_eq_nil_iff (generated : Configuration.ofOptions options part = .ok configuration) :
    (∀ block ∈ configuration.document.sections, block.openers = []) ↔
      (∀ program, options.Lists .program Program.reader program → program.extras.Closed) ∧
        ∀ listener, options.Lists .eventListener EventListener.reader listener →
          listener.extras.Closed := by
  constructor
  · intro none
    have empty := fun block origin => none block ((mem_sections_iff generated).mpr origin)
    exact ⟨fun program listed => Program.openers_toSection_eq_nil_iff.mp (empty _ (.program listed)),
      fun listener listed =>
        EventListener.openers_toSection_eq_nil_iff.mp (empty _ (.listener listed))⟩
  · rintro ⟨programs, listeners⟩ block inside
    refine List.filter_eq_nil_iff.mpr ?_
    intro entry member opens
    rcases ((mem_sections_iff generated).mp inside).extra_of_head member
        (head?_of_opensSection opens) with
      ⟨program, listed, -, extra⟩ | ⟨listener, listed, -, extra⟩
    · exact programs program listed entry extra opens
    · exact listeners listener listed entry extra opens

/-- When no option but those of several lines has a line feed, the lines that read as headers are
those of the sections, each followed by those of its entries that open a section themselves. Such
an entry is a setting of a program line or of an event listener line, and where there is none the
lines are exactly the headers. -/
theorem headerLines_text (generated : Configuration.ofOptions options part = .ok configuration)
    (single : options.SingleLine) (base : .char '\n' ∉ part.baseDir) :
    (lines configuration.text).filter isHeaderLine =
        (configuration.document.sections.flatMap fun block =>
          headerLine block.header :: block.openers.map entryLine) ∧
    (∀ block ∈ configuration.document.sections, ∀ entry ∈ block.openers,
      (∃ program, options.Lists .program Program.reader program ∧
        block = program.toSection configuration.daemon.limits ∧ entry ∈ program.extras.pairs) ∨
      ∃ listener, options.Lists .eventListener EventListener.reader listener ∧
        block = listener.toSection configuration.client ∧ entry ∈ listener.extras.pairs) ∧
    ((lines configuration.text).filter isHeaderLine =
        configuration.document.headers.map headerLine ↔
      (∀ program, options.Lists .program Program.reader program → program.extras.Closed) ∧
        ∀ listener, options.Lists .eventListener EventListener.reader listener →
          listener.extras.Closed) := by
  have filtered := Document.filter_lines_text (plain_sections generated single base)
    (returnless_document generated)
  refine ⟨filtered, ?_, ?_⟩
  · intro block inside entry member
    obtain ⟨inBlock, opens⟩ := List.mem_filter.mp member
    exact ((mem_sections_iff generated).mp inside).extra_of_head inBlock
      (head?_of_opensSection opens)
  · rw [← openers_eq_nil_iff generated, Configuration.text, filtered]
    exact flatMap_openers_eq_iff

theorem headerLines_text_with_brackets :
    let options := Options.ofList [
      ("programs".toList, "10 web ([a=b c[0]=d]) run [-v]".toList),
      ("eventlisteners".toList, "watch (x=[y]) TICK_60 ./watch".toList),
      ("user".toList, "[admin]".toList)]
    ∃ configuration, Configuration.ofOptions options ⟨"/srv", "main"⟩ = .ok configuration ∧
      options.SingleLine ∧
      (lines configuration.text).filter isHeaderLine =
        configuration.document.sections.flatMap fun block =>
          headerLine block.header :: block.openers.map entryLine := by
  intro options
  have single : options.SingleLine := Options.SingleLine.of_entries (by decide +kernel)
  obtain ⟨configuration, generated⟩ :
      ∃ configuration, Configuration.ofOptions options ⟨"/srv", "main"⟩ = .ok configuration :=
    exists_eq_ok_of_isOk (by decide +kernel)
  exact ⟨configuration, generated, single, (headerLines_text generated single (by decide)).1⟩

/-- A setting in brackets reads as a header that no section has. -/
theorem exists_headerLines_ne :
    let options := Options.ofList [("programs".toList, "10 web ([x=y]) /bin/web".toList),
      ("sections".toList, [])]
    ∃ configuration, Configuration.ofOptions options ⟨"/srv/app", "supervisor"⟩ =
        .ok configuration ∧
      options.SingleLine ∧
      (lines configuration.text).filter isHeaderLine =
        ["[supervisord]".toList, "[program:web]".toList, "[x = y]".toList] ∧
      configuration.document.headers = ["supervisord".toList, "program:web".toList] := by
  intro options
  have single : options.SingleLine := Options.SingleLine.of_entries (by decide +kernel)
  obtain ⟨configuration, generated, found⟩ : ∃ configuration,
      Configuration.ofOptions options ⟨"/srv/app", "supervisor"⟩ = .ok configuration ∧
        decide ((lines configuration.text).filter isHeaderLine =
            ["[supervisord]".toList, "[program:web]".toList, "[x = y]".toList] ∧
          configuration.document.headers = ["supervisord".toList, "program:web".toList]) = true :=
    exists_eq_ok_of_any (by decide +kernel)
  exact ⟨configuration, generated, single, of_decide_eq_true found⟩

end Configuration

end Supervision
