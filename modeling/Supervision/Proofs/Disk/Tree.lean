import Mathlib.Tactic.Common
import Supervision.Disk.Basic

/-!
What is at the locations of a tree after an entry was put there, taken away or moved, and trees
that differ in new directories only.
-/

namespace Supervision.FileTree

variable {tree before middle after : FileTree} {location source target : Location}
  {entry old : Entry} {mode : Nat} {bytes : ByteArray}

/-! Entries -/

theorem lookup_cons_eq_ite (first other : Location) (entry : Entry)
    (entries : List (Location × Entry)) :
    ((first, entry) :: entries).lookup other =
      if other = first then some entry else entries.lookup other := by
  by_cases same : other = first
  · simp [same]
  · have different : (other == first) = false := beq_eq_false_iff_ne.mpr same
    simp only [List.lookup_cons, different, if_neg same]

theorem lookup_putEntry (location other : Location) (entry : Entry)
    (entries : List (Location × Entry)) :
    (putEntry location entry entries).lookup other =
      if other = location then some entry else entries.lookup other := by
  induction entries with
  | nil => simp only [putEntry, lookup_cons_eq_ite]
  | cons first entries ih =>
      obtain ⟨key, value⟩ := first
      by_cases replaced : key = location
      · simp only [putEntry, replaced, if_true, lookup_cons_eq_ite]
        split <;> rfl
      · simp only [putEntry, replaced, if_false, lookup_cons_eq_ite, ih]
        by_cases same : other = key
        · have apart : other ≠ location := same ▸ replaced
          rw [if_pos same, if_neg apart, if_pos same]
        · rw [if_neg same, if_neg same]

theorem putEntry_of_lookup_eq_none {entries : List (Location × Entry)}
    (free : entries.lookup location = none) :
    putEntry location entry entries = entries ++ [(location, entry)] := by
  induction entries with
  | nil => rfl
  | cons first entries ih =>
      obtain ⟨key, value⟩ := first
      rw [lookup_cons_eq_ite] at free
      split at free
      · cases free
      · rename_i different
        simp [putEntry, Ne.symm different, ih free]

theorem putEntry_of_lookup_eq_some {entries : List (Location × Entry)}
    (found : entries.lookup location = some entry) :
    putEntry location entry entries = entries := by
  induction entries with
  | nil => simp at found
  | cons first entries ih =>
      obtain ⟨key, value⟩ := first
      rw [lookup_cons_eq_ite] at found
      split at found
      · rename_i same
        obtain rfl := Option.some.inj found
        simp [putEntry, same]
      · rename_i different
        simp [putEntry, Ne.symm different, ih found]

theorem putEntry_putEntry (location : Location) (old entry : Entry)
    (entries : List (Location × Entry)) :
    putEntry location entry (putEntry location old entries) = putEntry location entry entries := by
  induction entries with
  | nil => simp [putEntry]
  | cons first entries ih =>
      by_cases same : first.1 = location
      · simp [putEntry, same]
      · simp [putEntry, same, ih]

theorem fst_ne_of_lookup_eq_none {entries : List (Location × Entry)}
    (free : entries.lookup location = none) {listed : Location × Entry}
    (member : listed ∈ entries) : listed.1 ≠ location := by
  rintro rfl
  have found := (List.lookup_eq_none_iff.mp free) listed member
  simp at found

/-! Trees -/

theorem find?_eq_lookup (named : location ≠ []) :
    tree.find? location = tree.entries.lookup location := by
  simp [find?, named]

theorem find?_put (named : location ≠ []) (other : Location) :
    (tree.put location entry).find? other =
      if other = location then some entry else tree.find? other := by
  by_cases root : other = []
  · subst root
    simp [find?, Ne.symm named]
  · rw [find?_eq_lookup root, find?_eq_lookup root]
    exact lookup_putEntry location other entry tree.entries

theorem find?_put_self (named : location ≠ []) :
    (tree.put location entry).find? location = some entry := by
  rw [find?_put named, if_pos rfl]

theorem put_put (tree : FileTree) (location : Location) (old entry : Entry) :
    (tree.put location old).put location entry = tree.put location entry :=
  congrArg FileTree.mk (putEntry_putEntry location old entry tree.entries)

theorem put_of_find?_eq_some (named : location ≠ []) (found : tree.find? location = some entry) :
    tree.put location entry = tree := by
  rw [find?_eq_lookup named] at found
  exact congrArg FileTree.mk (putEntry_of_lookup_eq_some found)

theorem remove_put (named : location ≠ []) (free : tree.find? location = none) :
    (tree.put location entry).remove location = tree := by
  rw [find?_eq_lookup named] at free
  have kept : tree.entries.filter (fun listed => decide (listed.1 ≠ location)) = tree.entries :=
    List.filter_eq_self.mpr fun listed member =>
      decide_eq_true (fst_ne_of_lookup_eq_none free member)
  simp only [put, remove, putEntry_of_lookup_eq_none free, List.filter_append, kept]
  simp

/-- An entry that is put at a free location and moved on from there leaves nothing behind. -/
theorem move_put (named : source ≠ []) (free : tree.find? source = none) :
    (tree.put source entry).move source target = tree.put target entry := by
  rw [move, find?_put_self named]
  exact congrArg (FileTree.put · target entry) (remove_put named free)

/-! Directories -/

def IsDirectory (tree : FileTree) (location : Location) : Prop :=
  tree.find? location = some .directory

def Keeps (before after : FileTree) : Prop :=
  ∀ ⦃location⦄, before.IsDirectory location → after.IsDirectory location

theorem keeps_put_file (named : location ≠ []) (notDirectory : ¬tree.IsDirectory location) :
    tree.Keeps (tree.put location (.file mode bytes)) := by
  intro other directory
  have different : other ≠ location := by
    rintro rfl
    exact notDirectory directory
  rw [IsDirectory, find?_put named, if_neg different]
  exact directory

theorem put_file_keeps (named : location ≠ []) :
    (tree.put location (.file mode bytes)).Keeps tree := by
  intro other directory
  rw [IsDirectory, find?_put named] at directory
  split at directory
  · cases directory
  · exact directory

def Grows (before after : FileTree) : Prop :=
  ∀ location, after.find? location = before.find? location ∨
    before.find? location = none ∧ after.IsDirectory location

namespace Grows

theorem refl (tree : FileTree) : tree.Grows tree :=
  fun _ => Or.inl rfl

theorem find?_eq_some (grows : before.Grows after) (found : before.find? location = some entry) :
    after.find? location = some entry := by
  rcases grows location with same | ⟨absent, -⟩
  · rw [same, found]
  · rw [found] at absent
    cases absent

theorem trans (first : before.Grows middle) (second : middle.Grows after) :
    before.Grows after := by
  intro location
  rcases first location with same | ⟨absent, directory⟩
  · rcases second location with later | ⟨absent, directory⟩
    · exact Or.inl (later.trans same)
    · exact Or.inr ⟨same ▸ absent, directory⟩
  · exact Or.inr ⟨absent, second.find?_eq_some directory⟩

theorem keeps (grows : before.Grows after) : before.Keeps after :=
  fun _ directory => grows.find?_eq_some directory

theorem put_directory (named : location ≠ []) (free : tree.find? location = none) :
    tree.Grows (tree.put location .directory) := by
  intro other
  by_cases same : other = location
  · subst same
    exact Or.inr ⟨free, find?_put_self named⟩
  · exact Or.inl (by rw [find?_put named, if_neg same])

end Grows

end Supervision.FileTree
