import Supervision.Options.Known
import Supervision.Proofs.Options.Agreement
import Supervision.Proofs.Text.Bytes

/-!
The known options are those that matter. No other option changes what is made from an option set,
and each known one changes it somewhere; the others are listed, so that all are warned of.
-/

namespace Supervision

open Text

variable {options other : Options} {key name : Text}

namespace Options

/-- The same is made from both option sets: the configuration, or the error in its place, and the
launchers and packages that are asked for, wherever the document is put. -/
def Interchangeable (options other : Options) : Prop :=
  ∀ part, Configuration.ofOptions other part = Configuration.ofOptions options part ∧
    ∀ path, InstallRequest.all other part path = InstallRequest.all options part path

/-! Every option that is read is known. -/

theorem configurationNames_subset_known : Configuration.optionNames ⊆ known := by
  decide +kernel

theorem transportNames_subset_known : Transport.optionNames ⊆ known := by
  decide +kernel

theorem socketNames_subset_known (kind : SocketKind) : kind.optionNames ⊆ known := by
  cases kind <;> decide +kernel

theorem requestNames_subset_known : InstallRequest.optionNames ⊆ known := by
  decide +kernel

theorem interchangeable_of_agreeOn_known (agree : AgreeOn known options other) :
    Interchangeable options other := by
  have selection := Selection.resolve_congr (agree.mono (by decide))
  have transport := Transport.resolve_congr (agree.mono transportNames_subset_known)
    fun kind _ => agree.mono (socketNames_subset_known kind)
  intro part
  refine ⟨?_, fun path => ?_⟩
  · exact Configuration.ofOptions_congr (agree.mono configurationNames_subset_known) selection
      transport part
  · exact InstallRequest.all_congr (agree.mono requestNames_subset_known) part path

/-! Every known option is read. -/

/-- An option set in which the option is not given and would be read. The file of a socket and its
mode are read only for a socket in the file system, the port only for one that is not. -/
def withReader (key : Text) : Options :=
  if key = "port".toList then empty else ofList [("http-socket", "unix")]

theorem not_interchangeable_of_known (inside : key ∈ known) :
    ¬Interchangeable (withReader key) ((withReader key).insert key "x") := by
  -- One run for each known option. The value is no default, and no record of a block.
  have differs : ∀ key ∈ known,
      Configuration.ofOptions ((withReader key).insert key "x") ⟨"/srv", "main"⟩ ≠
          Configuration.ofOptions (withReader key) ⟨"/srv", "main"⟩ ∨
        InstallRequest.all ((withReader key).insert key "x") ⟨"/srv", "main"⟩ [] ≠
          InstallRequest.all (withReader key) ⟨"/srv", "main"⟩ [] := by
    decide +kernel
  intro same
  obtain ⟨configuration, requests⟩ := same ⟨"/srv", "main"⟩
  rcases differs key inside with other | other
  · exact other configuration
  · exact other (requests [])

/-! The list of the others. -/

theorem mem_keys_iff : name ∈ options.entries.map Prod.fst ↔ (options.get? name).isSome := by
  simp only [get?, List.lookup_isSome_iff, List.mem_map, beq_iff_eq, eq_comm (a := name)]

theorem mem_unknownKeys_iff :
    name ∈ options.unknownKeys ↔ (options.get? name).isSome ∧ name ∉ known := by
  rw [unknownKeys, List.mem_filter, mem_keys_iff, Bool.not_eq_true', List.contains_eq_mem,
    decide_eq_false_iff_not]

theorem mem_unknownKeys_insert_iff {value : Text} (unknown : key ∉ known) :
    name ∈ (options.insert key value).unknownKeys ↔ name = key ∨ name ∈ options.unknownKeys := by
  rw [mem_unknownKeys_iff, mem_unknownKeys_iff, get?_insert]
  by_cases same : name = key
  · subst same
    simp [unknown]
  · simp [same]

theorem pairwise_unknownKeys (options : Options) :
    options.unknownKeys.Pairwise fun left right => bytes left < bytes right := by
  have keys : (options.entries.map Prod.fst).Pairwise fun left right => precedes left right = true :=
    List.pairwise_map.mpr options.ordered
  exact (keys.imp precedes_iff_bytes_lt.mp).filter _

/-- The known options are exactly those that matter: one that is not known changes nothing, in any
option set and with any value, and joins the list of those that are warned of; one that is known
changes something in some option set, and is never listed. -/
theorem known_exactly (key : Text) :
    (key ∉ known → ∀ options value,
      Interchangeable options (options.insert key value) ∧
      (∀ name, name ∈ (options.insert key value).unknownKeys ↔
        name = key ∨ name ∈ options.unknownKeys) ∧
      (options.insert key value).unknownKeys.Pairwise fun left right =>
        bytes left < bytes right) ∧
    (key ∈ known →
      (∃ options value, ¬Interchangeable options (options.insert key value)) ∧
      ∀ options : Options, key ∉ options.unknownKeys) := by
  constructor
  · intro unknown options value
    exact ⟨interchangeable_of_agreeOn_known (agreeOn_insert unknown),
      fun name => mem_unknownKeys_insert_iff unknown, pairwise_unknownKeys _⟩
  · intro inside
    exact ⟨⟨withReader key, "x", not_interchangeable_of_known inside⟩,
      fun options listed => (mem_unknownKeys_iff.mp listed).2 inside⟩

theorem known_exactly_of_port :
    (∀ options value, Interchangeable options (options.insert "prot" value) ∧
      "prot".toList ∈ (options.insert "prot" value).unknownKeys) ∧
    ∃ options value, ¬Interchangeable options (options.insert "port" value) := by
  constructor
  · intro options value
    obtain ⟨unheard, listed, -⟩ := (known_exactly "prot").1 (by decide) options value
    exact ⟨unheard, (listed "prot").mpr (Or.inl rfl)⟩
  · exact ((known_exactly "port").2 (by decide)).1

end Options

end Supervision
