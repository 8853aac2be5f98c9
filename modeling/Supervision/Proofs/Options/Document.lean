import Supervision.Options.Override
import Supervision.Proofs.Outcome
import Supervision.Proofs.Toml.Keys

/-!
Options taken from a document: under each of its keys stands the text of the value, and a list of
strings stands there as lines.
-/

namespace Supervision.Options

open Text Outcome

variable {key : Text}

/-! Lists. -/

theorem listItems_eq_ok_iff {items : List Toml.Value} {texts : List Text} :
    listItems key items = .ok texts ↔ items = texts.map Toml.Value.string := by
  induction items generalizing texts with
  | nil => cases texts <;> simp [listItems]
  | cons item items ih =>
      cases item with
      | string text =>
          simp only [listItems, bind_eq_ok_iff, pure_eq_ok_iff, ih]
          constructor
          · rintro ⟨others, rfl, rfl⟩
            rfl
          · intro equal
            cases texts with
            | nil => cases equal
            | cons first others =>
                obtain ⟨same, later⟩ := List.cons.inj equal
                obtain rfl := Toml.Value.string.inj same
                exact ⟨others, later, rfl⟩
      | _ => cases texts <;> simp [listItems]

theorem valueText_strings (key : Text) (texts : List Text) :
    valueText key (.array (texts.map Toml.Value.string)) = .ok (joinWith ['\n'] texts) := by
  rw [valueText, listItems_eq_ok_iff.mpr rfl]
  rfl

def strings? : Toml.Value → Option (List Text)
  | .array items => (listItems [] items).toOption
  | _ => none

theorem strings?_eq_some_iff {value : Toml.Value} {texts : List Text} :
    strings? value = some texts ↔ value = .array (texts.map Toml.Value.string) := by
  cases value with
  | array items =>
      rw [Toml.Value.array.injEq, ← listItems_eq_ok_iff, strings?]
      cases listItems [] items <;> simp [Except.toOption]
  | _ => simp [strings?]

/-! Entries taken over. -/

theorem get?_insertValues_of_not_mem {options result : Options}
    {entries : List (Text × Toml.Value)} (taken : insertValues options entries = .ok result)
    (absent : key ∉ entries.map Prod.fst) : result.get? key = options.get? key := by
  induction entries generalizing options with
  | nil =>
      obtain rfl := Except.ok.inj taken
      rfl
  | cons entry entries ih =>
      obtain ⟨first, value⟩ := entry
      obtain ⟨text, -, later⟩ := bind_eq_ok_iff.mp taken
      rw [List.map_cons, List.mem_cons, not_or] at absent
      rw [ih later absent.2, get?_insert, if_neg absent.1]

theorem get?_insertValues_of_mem {options result : Options} {entries : List (Text × Toml.Value)}
    (taken : insertValues options entries = .ok result) (distinct : (entries.map Prod.fst).Nodup)
    {value : Toml.Value} (member : (key, value) ∈ entries) :
    ∃ text, valueText key value = .ok text ∧ result.get? key = some text := by
  induction entries generalizing options with
  | nil => cases member
  | cons entry entries ih =>
      obtain ⟨first, other⟩ := entry
      obtain ⟨text, read, later⟩ := bind_eq_ok_iff.mp taken
      obtain ⟨fresh, distinct⟩ := List.nodup_cons.mp distinct
      rcases List.mem_cons.mp member with same | member
      · obtain ⟨rfl, rfl⟩ := Prod.mk.inj same
        refine ⟨text, read, ?_⟩
        rw [get?_insertValues_of_not_mem later fresh, get?_insert, if_pos rfl]
      · exact ih later distinct member

/-- Under a key of a document stands the text of its value. -/
theorem get?_ofToml {document : Text} {table : List (Text × Toml.Value)} {options : Options}
    (parsed : Toml.parse document = some table) (taken : ofToml document = .ok options)
    {value : Toml.Value} (member : (key, value) ∈ table) :
    ∃ text, valueText key value = .ok text ∧ options.get? key = some text := by
  rw [ofToml, parsed] at taken
  -- The keys are taken over in order, which is another order of the same entries.
  have sorted := List.mergeSort_perm table fun left right => notAfter left.1 right.1
  exact get?_insertValues_of_mem taken
    ((sorted.map Prod.fst).nodup_iff.mpr (Toml.nodup_keys_of_parse parsed))
    (sorted.mem_iff.mpr member)

theorem get?_of_strings {document : Text} {table : List (Text × Toml.Value)} {options : Options}
    {texts : List Text} (parsed : Toml.parse document = some table)
    (taken : ofToml document = .ok options)
    (member : (key, .array (texts.map Toml.Value.string)) ∈ table) :
    options.get? key = some (joinWith ['\n'] texts) := by
  obtain ⟨text, read, stored⟩ := get?_ofToml parsed taken member
  rw [valueText_strings] at read
  obtain rfl := Except.ok.inj read
  exact stored

end Supervision.Options
