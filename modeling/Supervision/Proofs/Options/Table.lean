import Supervision.Proofs.Options.Document
import Supervision.Proofs.Options.Overrides
import Supervision.Proofs.Text.Bytes

/-!
Tables as options: either every value makes an option, and then all of them are taken over, or the
least key whose value does not decides what is wrong with the table.
-/

namespace Supervision

open Text Outcome

namespace Toml.Value

inductive Qualifies : Value → Prop
  | single {value : Value} : value.kind ∈ [Kind.string, .integer, .float, .boolean] →
      Qualifies value
  | list {items : List Value} : (∀ item ∈ items, item.kind = .string) → Qualifies (.array items)

/-- The text of a value that makes an option. -/
inductive Gives : Value → Text → Prop
  | string (text : Text) : Gives (.string text) text
  | integer (number : Int) : Gives (.integer number) (ofInt number)
  | float (number : Binary64) : Gives (.float number) number.text
  | boolean (flag : Bool) : Gives (.boolean flag) (ofBool flag)
  | list (texts : List Text) : Gives (.array (texts.map .string)) (joinWith ['\n'] texts)

/-- What is said about a key when its value makes no option. Of a list it names the first item
that is not a string. -/
inductive Complaint (key : Text) : Value → Text → Prop
  | list (texts : List Text) {item : Value} (others : List Value) : item.kind ≠ .string →
      Complaint key (.array (texts.map .string ++ item :: others))
        ("option ".toList ++ key ++ " must be a list of strings, found ".toList ++ item.kind.label)
  | single {value : Value} : value.kind ∉ [Kind.string, .integer, .float, .boolean, .array] →
      Complaint key value ("option ".toList ++ key ++
        " must be a string, number, boolean or list of strings, found ".toList ++ value.kind.label)

end Toml.Value

namespace Options

open Toml (Value)

variable {key text message : Text} {value : Value} {options result : Options}
  {entries table : List (Text × Value)} {cause : OptionError}

/-! One value. -/

theorem listItems_of_item (key : Text) (texts : List Text) {item : Value} (others : List Value)
    (other : item.kind ≠ .string) :
    listItems key (texts.map .string ++ item :: others) = .error (.mixedList key item.kind) := by
  induction texts with
  | nil =>
      cases item with
      | string text => exact absurd rfl other
      | _ => rfl
  | cons text texts ih =>
      rw [List.map_cons, List.cons_append, listItems, ih]
      rfl

theorem strings_or_exists_item (items : List Value) :
    (∃ texts : List Text, items = texts.map .string) ∨
      ∃ (texts : List Text) (item : Value) (others : List Value),
        items = texts.map .string ++ item :: others ∧ item.kind ≠ .string := by
  induction items with
  | nil => exact Or.inl ⟨[], rfl⟩
  | cons first items ih =>
      cases first with
      | string text =>
          rcases ih with ⟨texts, rfl⟩ | ⟨texts, item, others, rfl, other⟩
          · exact Or.inl ⟨text :: texts, rfl⟩
          · exact Or.inr ⟨text :: texts, item, others, rfl, other⟩
      | _ => exact Or.inr ⟨[], _, items, rfl, by simp [Value.kind]⟩

theorem valueText_of_gives (gives : value.Gives text) (key : Text) :
    valueText key value = .ok text := by
  cases gives with
  | list texts => exact valueText_strings key texts
  | _ => rfl

theorem exists_error_of_complaint (complaint : value.Complaint key message) :
    ∃ cause, valueText key value = .error cause ∧ cause.message = message := by
  cases complaint with
  | list texts others other =>
      refine ⟨.mixedList key _, ?_, rfl⟩
      rw [valueText, listItems_of_item key texts others other]
      rfl
  | single other =>
      refine ⟨.unsupported key value.kind, ?_, rfl⟩
      cases value with
      | datetime | table => rfl
      | _ => simp [Value.kind] at other

theorem gives_or_complaint (key : Text) (value : Value) :
    (∃ text, value.Gives text) ∨ ∃ message, value.Complaint key message := by
  cases value with
  | string text => exact Or.inl ⟨_, .string text⟩
  | integer number => exact Or.inl ⟨_, .integer number⟩
  | float number => exact Or.inl ⟨_, .float number⟩
  | boolean flag => exact Or.inl ⟨_, .boolean flag⟩
  | array items =>
      rcases strings_or_exists_item items with ⟨texts, rfl⟩ | ⟨texts, item, others, rfl, other⟩
      · exact Or.inl ⟨_, .list texts⟩
      · exact Or.inr ⟨_, .list texts others other⟩
  | datetime | table => exact Or.inr ⟨_, .single (by simp [Value.kind])⟩

theorem valueText_eq_ok_iff : valueText key value = .ok text ↔ value.Gives text := by
  refine ⟨fun taken => ?_, fun gives => valueText_of_gives gives key⟩
  rcases gives_or_complaint key value with ⟨other, gives⟩ | ⟨message, complaint⟩
  · obtain rfl := Except.ok.inj (taken.symm.trans (valueText_of_gives gives key))
    exact gives
  · obtain ⟨cause, failed, -⟩ := exists_error_of_complaint complaint
    cases taken.symm.trans failed

theorem exists_valueText_error_iff :
    (∃ cause, valueText key value = .error cause ∧ cause.message = message) ↔
      value.Complaint key message := by
  refine ⟨?_, exists_error_of_complaint⟩
  rintro ⟨cause, failed, rfl⟩
  rcases gives_or_complaint key value with ⟨text, gives⟩ | ⟨other, complaint⟩
  · cases failed.symm.trans (valueText_of_gives gives key)
  · obtain ⟨found, again, rfl⟩ := exists_error_of_complaint complaint
    obtain rfl := Except.error.inj (failed.symm.trans again)
    exact complaint

theorem not_qualifies_of_complaint (complaint : value.Complaint key message) :
    ¬value.Qualifies := by
  intro qualifies
  cases complaint with
  | list texts others other =>
      cases qualifies with
      | single among => simp [Value.kind] at among
      | list strings => exact absurd (strings _ (by simp)) other
  | single other =>
      cases qualifies with
      | single among => exact absurd (List.mem_append_left [Toml.Kind.array] among) other
      | list strings => simp [Value.kind] at other

theorem exists_gives_iff : (∃ text, value.Gives text) ↔ value.Qualifies := by
  constructor
  · rintro ⟨text, gives⟩
    cases gives with
    | list texts => exact .list (by simp [Value.kind])
    | _ => exact .single (by simp [Value.kind])
  · intro qualifies
    rcases gives_or_complaint [] value with gives | ⟨message, complaint⟩
    · exact gives
    · exact absurd qualifies (not_qualifies_of_complaint complaint)

/-! Entries one after the other. -/

theorem insertValues_eq_error_iff :
    insertValues options entries = .error cause ↔
      StopsAt (fun entry => entry.2.Qualifies)
        (fun _ entry => valueText entry.1 entry.2 = .error cause) entries := by
  induction entries generalizing options with
  | nil => simp [insertValues, not_stopsAt_nil]
  | cons entry entries ih =>
      obtain ⟨key, value⟩ := entry
      simp only [insertValues, stopsAt_cons_iff, bind_eq_error_iff, ih, valueText_eq_ok_iff,
        exists_and_right, exists_gives_iff]

theorem exists_insertValues_ok_iff :
    (∃ result, insertValues options entries = .ok result) ↔
      ∀ entry ∈ entries, entry.2.Qualifies := by
  induction entries generalizing options with
  | nil => simp [insertValues]
  | cons entry entries ih =>
      obtain ⟨key, value⟩ := entry
      rw [List.forall_mem_cons, ← exists_gives_iff]
      simp only [insertValues, bind_eq_ok_iff, valueText_eq_ok_iff]
      constructor
      · rintro ⟨result, text, gives, later⟩
        exact ⟨⟨text, gives⟩, ih.mp ⟨result, later⟩⟩
      · rintro ⟨⟨text, gives⟩, others⟩
        obtain ⟨result, later⟩ := ih.mpr others
        exact ⟨result, text, gives, later⟩

/-- The options are the whole of a table: the texts of its values stand under their keys, and no
other key is there. -/
def Holds (options : Options) (table : List (Text × Value)) : Prop :=
  ∀ key text, options.get? key = some text ↔ ∃ value, (key, value) ∈ table ∧ value.Gives text

theorem holds_of_insertValues (taken : insertValues empty entries = .ok result)
    (distinct : (entries.map Prod.fst).Nodup) : result.Holds entries := by
  intro key text
  constructor
  · intro found
    have member : key ∈ entries.map Prod.fst := by
      by_contra absent
      rw [get?_insertValues_of_not_mem taken absent] at found
      cases found
    obtain ⟨⟨_, value⟩, inside, rfl⟩ := List.mem_map.mp member
    obtain ⟨other, read, stored⟩ := get?_insertValues_of_mem taken distinct inside
    obtain rfl := Option.some.inj (stored.symm.trans found)
    exact ⟨value, inside, valueText_eq_ok_iff.mp read⟩
  · rintro ⟨value, inside, gives⟩
    obtain ⟨other, read, stored⟩ := get?_insertValues_of_mem taken distinct inside
    obtain rfl := Except.ok.inj ((valueText_of_gives gives key).symm.trans read)
    exact stored

theorem Holds.unique {other : Options} (first : options.Holds table) (second : other.Holds table) :
    other = options :=
  eq_of_get? fun key => Option.ext fun text => (second key text).trans (first key text).symm

/-! Tables, whose keys are taken in the order of their bytes. -/

theorem notAfter_iff {left right : Text} : notAfter left right = true ↔ bytes left ≤ bytes right := by
  rw [notAfter, Bool.not_eq_true', ← Bool.not_eq_true, precedes_iff_bytes_lt, List.not_lt]

def inOrder (table : List (Text × Value)) : List (Text × Value) :=
  table.mergeSort fun left right => notAfter left.1 right.1

theorem inOrder_perm (table : List (Text × Value)) : (inOrder table).Perm table :=
  List.mergeSort_perm table _

theorem pairwise_inOrder (distinct : (table.map Prod.fst).Nodup) :
    (inOrder table).Pairwise fun left right => bytes left.1 < bytes right.1 := by
  have apart : (inOrder table).Pairwise fun left right => left.1 ≠ right.1 :=
    List.pairwise_map.mp (((inOrder_perm table).map Prod.fst).nodup_iff.mpr distinct)
  have sorted : (inOrder table).Pairwise fun left right => notAfter left.1 right.1 = true := by
    refine List.pairwise_mergeSort (fun first second third => ?_) (fun first second => ?_) table
    · simp only [notAfter_iff]
      exact List.le_trans
    · rw [Bool.or_eq_true, notAfter_iff, notAfter_iff]
      exact List.le_total _ _
  refine (sorted.and apart).imp ?_
  rintro left right ⟨before, different⟩
  rw [← precedes_iff_bytes_lt]
  by_contra notBefore
  rw [notAfter, Bool.not_eq_true'] at before
  exact different (eq_of_not_precedes (Bool.eq_false_iff.mpr notBefore) before)

/-- The value makes no option, and no key that comes before its own in the order of bytes has
such a value. -/
structure LeastBad (table : List (Text × Value)) (key : Text) (value : Value) : Prop where
  member : (key, value) ∈ table
  bad : ¬value.Qualifies
  least : ∀ other ∈ table, ¬other.2.Qualifies → bytes key ≤ bytes other.1

theorem exists_ofTable_ok_iff :
    (∃ options, ofTable table = .ok options) ↔ ∀ entry ∈ table, entry.2.Qualifies := by
  simp only [← (inOrder_perm table).mem_iff]
  exact exists_insertValues_ok_iff

theorem ofTable_eq_ok_iff (distinct : (table.map Prod.fst).Nodup) :
    ofTable table = .ok options ↔ (∀ entry ∈ table, entry.2.Qualifies) ∧ options.Holds table := by
  have perm := inOrder_perm table
  have holds : ∀ {result}, ofTable table = .ok result → result.Holds table := fun taken key text => by
    simp only [← perm.mem_iff]
    exact holds_of_insertValues taken ((perm.map Prod.fst).nodup_iff.mpr distinct) key text
  rw [← exists_ofTable_ok_iff]
  constructor
  · exact fun taken => ⟨⟨options, taken⟩, holds taken⟩
  · rintro ⟨⟨result, taken⟩, whole⟩
    obtain rfl := (holds taken).unique whole
    exact taken

theorem exists_ofTable_error_iff (distinct : (table.map Prod.fst).Nodup) :
    (∃ cause, ofTable table = .error cause ∧ cause.message = message) ↔
      ∃ key value, LeastBad table key value ∧ value.Complaint key message := by
  have stops (cause : OptionError) : ofTable table = .error cause ↔
      ∃ entry ∈ table, valueText entry.1 entry.2 = .error cause ∧
        ∀ other ∈ table, ¬other.2.Qualifies → bytes entry.1 ≤ bytes other.1 := by
    refine insertValues_eq_error_iff.trans ?_
    refine (stopsAt_iff_least (pairwise_inOrder distinct) fun _ _ => List.lt_asymm).trans ?_
    simp only [List.not_lt, (inOrder_perm table).mem_iff]
  simp only [stops, Prod.exists]
  constructor
  · rintro ⟨cause, ⟨key, value, member, failed, least⟩, told⟩
    have complaint := exists_valueText_error_iff.mp ⟨cause, failed, told⟩
    exact ⟨key, value, ⟨member, not_qualifies_of_complaint complaint, least⟩, complaint⟩
  · rintro ⟨key, value, ⟨member, -, least⟩, complaint⟩
    obtain ⟨cause, failed, told⟩ := exists_error_of_complaint complaint
    exact ⟨cause, ⟨key, value, member, failed, least⟩, told⟩

end Options

end Supervision
