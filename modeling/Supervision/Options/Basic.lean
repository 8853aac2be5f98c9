import Supervision.Text.Order

/-!
Options map keys to texts. Entries are kept in the order of their keys, code point by code point,
so that two option sets with the same values are the same option set.
-/

namespace Supervision

namespace Options

open Text

def insertEntry (key value : Text) : List (Text × Text) → List (Text × Text)
  | [] => [(key, value)]
  | entry :: entries =>
      if precedes key entry.1 then (key, value) :: entry :: entries
      else if precedes entry.1 key then entry :: insertEntry key value entries
      else (key, value) :: entries

theorem mem_insertEntry {key value : Text} {entries : List (Text × Text)} {entry : Text × Text}
    (found : entry ∈ insertEntry key value entries) :
    entry = (key, value) ∨ entry ∈ entries := by
  induction entries with
  | nil => simpa [insertEntry] using found
  | cons first entries ih =>
      simp only [insertEntry] at found
      split at found
      · simpa using found
      · split at found
        · rcases List.mem_cons.mp found with same | later
          · exact Or.inr (by simp [same])
          · rcases ih later with same | member
            · exact Or.inl same
            · exact Or.inr (List.mem_cons_of_mem _ member)
        · rcases List.mem_cons.mp found with same | later
          · exact Or.inl same
          · exact Or.inr (List.mem_cons_of_mem _ later)

def Ordered (entries : List (Text × Text)) : Prop :=
  entries.Pairwise fun left right => precedes left.1 right.1 = true

theorem ordered_insertEntry (key value : Text) {entries : List (Text × Text)}
    (ordered : Ordered entries) : Ordered (insertEntry key value entries) := by
  induction entries with
  | nil => simp [insertEntry, Ordered]
  | cons first entries ih =>
      obtain ⟨below, later⟩ := List.pairwise_cons.mp ordered
      simp only [insertEntry]
      split
      case isTrue less =>
        refine List.pairwise_cons.mpr ⟨?_, ordered⟩
        intro entry member
        rcases List.mem_cons.mp member with same | member
        · simpa [same] using less
        · exact precedes_trans less (below entry member)
      case isFalse notLess =>
        split
        case isTrue more =>
          refine List.pairwise_cons.mpr ⟨?_, ih later⟩
          intro entry member
          rcases mem_insertEntry member with same | member
          · simpa [same] using more
          · exact below entry member
        case isFalse notMore =>
          have same : key = first.1 :=
            eq_of_not_precedes (Bool.eq_false_iff.mpr notLess)
              (Bool.eq_false_iff.mpr notMore)
          refine List.pairwise_cons.mpr ⟨?_, later⟩
          intro entry member
          simpa [same] using below entry member

end Options

structure Options where
  entries : List (Text × Text)
  ordered : Options.Ordered entries

namespace Options

open Text

def empty : Options := ⟨[], List.Pairwise.nil⟩

def insert (options : Options) (key value : Text) : Options :=
  ⟨insertEntry key value options.entries, ordered_insertEntry key value options.ordered⟩

def ofList (entries : List (Text × Text)) : Options :=
  entries.foldl (fun options entry => options.insert entry.1 entry.2) empty

/-- The value under a key, also when it is empty. -/
def get? (options : Options) (key : Text) : Option Text :=
  options.entries.lookup key

theorem lookup_cons_ite (key value other : Text) (entries : List (Text × Text)) :
    ((key, value) :: entries).lookup other =
      if other = key then some value else entries.lookup other := by
  by_cases same : other = key
  · simp [same]
  · have different : (other == key) = false := beq_eq_false_iff_ne.mpr same
    simp [List.lookup_cons, same, different]

theorem lookup_insertEntry (key value other : Text) (entries : List (Text × Text)) :
    (insertEntry key value entries).lookup other =
      if other = key then some value else entries.lookup other := by
  induction entries with
  | nil => simp only [insertEntry, lookup_cons_ite]
  | cons first entries ih =>
      obtain ⟨firstKey, firstValue⟩ := first
      simp only [insertEntry]
      split
      · simp only [lookup_cons_ite]
      · rename_i notLess
        split
        · rename_i more
          have different : ¬firstKey = key := by
            rintro rfl
            simp [precedes_irrefl] at more
          simp only [lookup_cons_ite, ih]
          by_cases atFirst : other = firstKey
          · simp [atFirst, different]
          · simp [atFirst]
        · rename_i notMore
          have sameKey : key = firstKey :=
            eq_of_not_precedes (Bool.eq_false_iff.mpr notLess) (Bool.eq_false_iff.mpr notMore)
          subst sameKey
          simp only [lookup_cons_ite]
          by_cases same : other = key
          · simp [same]
          · simp [same]

theorem get?_insert (options : Options) (key value other : Text) :
    (options.insert key value).get? other =
      if other = key then some value else options.get? other :=
  lookup_insertEntry key value other options.entries

def getD (options : Options) (key default : Text) : Text :=
  (options.get? key).getD default

/-- The value under a key unless it is empty. -/
def nonEmpty? (options : Options) (key : Text) : Option Text :=
  (options.get? key).filter fun value => !value.isEmpty

def block (options : Options) (key : Text) : Text :=
  options.getD key []

def inkLines (text : Text) : List Text :=
  ((lines text).map trim).filter fun line => !line.isEmpty

def blockLines (options : Options) (key : Text) : List Text :=
  inkLines (options.block key)

end Options

end Supervision
