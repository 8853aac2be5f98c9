import Supervision.Proofs.Disk.Tree
import Supervision.Proofs.Path.Letter
import Supervision.Text.Split

/-!
Where paths lead. A path is followed through directories only, so that it leads to the same place
as long as every directory is still there.
-/

namespace Supervision.Disk

open PathText Text Outcome

structure Keeps (before after : Disk) : Prop where
  here : after.here = before.here
  tree : before.tree.Keeps after.tree

structure Grows (before after : Disk) : Prop where
  here : after.here = before.here
  tree : before.tree.Grows after.tree

variable {disk before middle after : Disk} {tree : FileTree} {start location : Location}
  {path name : PathText} {listed : List PathText}

theorem Keeps.trans (first : before.Keeps middle) (second : middle.Keeps after) :
    before.Keeps after :=
  ⟨second.here.trans first.here, fun _ directory => second.tree (first.tree directory)⟩

theorem Grows.refl (disk : Disk) : disk.Grows disk :=
  ⟨rfl, .refl disk.tree⟩

theorem Grows.trans (first : before.Grows middle) (second : middle.Grows after) :
    before.Grows after :=
  ⟨second.here.trans first.here, first.tree.trans second.tree⟩

theorem Grows.keeps (grows : before.Grows after) : before.Keeps after :=
  ⟨grows.here, grows.tree.keeps⟩

/-! Pieces -/

def IsName (name : PathText) : Prop :=
  name ≠ [] ∧ name ≠ [.char '.'] ∧ name ≠ [.char '.', .char '.'] ∧ byteLength name ≤ nameLimit

theorem enter_of_isName (isName : IsName name) (location : Location) :
    enter location name = .ok (location ++ [name]) := by
  obtain ⟨nonempty, notDot, notUp, short⟩ := isName
  simp [enter, nonempty, notDot, notUp, Nat.not_lt.mpr short]

/-- The pieces that name no entry are the empty one and the dots. -/
theorem isName_of_enter {result : Location} (entered : enter location name = .ok result)
    (proper : ¬(name = [] ∨ name = [.char '.'] ∨ name = [.char '.', .char '.'])) : IsName name := by
  obtain ⟨nonempty, notDot, notUp⟩ : name ≠ [] ∧ name ≠ [.char '.'] ∧ name ≠ [.char '.', .char '.'] := by
    simpa using proper
  have short : byteLength name ≤ nameLimit := by
    by_contra long
    simp [enter, nonempty, notDot, notUp, Nat.not_le.mp long] at entered
  exact ⟨nonempty, notDot, notUp, short⟩

theorem pieces_eq_ok_iff :
    pieces path = .ok listed ↔ .char '\x00' ∉ path ∧ path ≠ [] ∧ byteLength path < pathLimit ∧
      listed = splitWhere (· = .char '/') path := by
  simp only [pieces, List.contains_iff_mem, List.isEmpty_iff]
  split
  · rename_i nul
    exact iff_of_false nofun fun taken => taken.1 nul
  · rename_i nul
    split
    · rename_i empty
      exact iff_of_false nofun fun taken => taken.2.1 empty
    · rename_i empty
      split
      · rename_i long
        exact iff_of_false nofun fun taken => Nat.not_lt.mpr long taken.2.2.1
      · rename_i short
        rw [Except.ok.injEq, eq_comm]
        exact ⟨fun same => ⟨nul, empty, Nat.not_le.mp short, same⟩, fun taken => taken.2.2.2⟩

theorem exists_eq_concat_of_pieces (taken : pieces path = .ok listed) :
    ∃ front name, listed = front ++ [name] := by
  obtain ⟨-, -, -, rfl⟩ := pieces_eq_ok_iff.mp taken
  exact ⟨_, _, (List.dropLast_append_getLast (splitWhere_ne_nil _ path)).symm⟩

/-! Walks -/

theorem walk_cons_eq_ok_iff {piece : PathText} {result : Location} :
    walk tree start (piece :: listed) = .ok result ↔
      tree.IsDirectory start ∧
        ∃ next, enter start piece = .ok next ∧ walk tree next listed = .ok result := by
  rw [walk, FileTree.IsDirectory]
  rcases tree.find? start with _ | _ | ⟨mode, bytes⟩
  · simp
  · simp [bind_eq_ok_iff]
  · simp

theorem walk_append_eq_ok_iff {others : List PathText} {result : Location} :
    walk tree start (listed ++ others) = .ok result ↔
      ∃ next, walk tree start listed = .ok next ∧ walk tree next others = .ok result := by
  induction listed generalizing start with
  | nil => simp [walk]
  | cons piece listed ih =>
      simp only [List.cons_append, walk_cons_eq_ok_iff, ih]
      constructor
      · rintro ⟨directory, next, entered, middle, walked, rest⟩
        exact ⟨middle, ⟨directory, next, entered, walked⟩, rest⟩
      · rintro ⟨middle, ⟨directory, next, entered, walked⟩, rest⟩
        exact ⟨directory, next, entered, middle, walked, rest⟩

theorem walk_singleton_eq_ok_iff {piece : PathText} {result : Location} :
    walk tree start [piece] = .ok result ↔
      tree.IsDirectory start ∧ enter start piece = .ok result := by
  rw [walk_cons_eq_ok_iff]
  simp [walk]

/-- An empty piece at the end asks for a directory and leads nowhere else. -/
theorem walk_concat_nil_eq_ok_iff {result : Location} :
    walk tree start (listed ++ [[]]) = .ok result ↔
      walk tree start listed = .ok result ∧ tree.IsDirectory result := by
  simp only [walk_append_eq_ok_iff, walk_singleton_eq_ok_iff]
  constructor
  · rintro ⟨next, walked, directory, entered⟩
    obtain rfl : next = result := by simpa [enter] using entered
    exact ⟨walked, directory⟩
  · rintro ⟨walked, directory⟩
    exact ⟨result, walked, directory, by simp [enter]⟩

theorem walk_keeps {wider : FileTree} {result : Location} (keeps : tree.Keeps wider)
    (walked : walk tree start listed = .ok result) : walk wider start listed = .ok result := by
  induction listed generalizing start with
  | nil => exact walked
  | cons piece listed ih =>
      obtain ⟨directory, next, entered, rest⟩ := walk_cons_eq_ok_iff.mp walked
      exact walk_cons_eq_ok_iff.mpr ⟨keeps directory, next, entered, ih rest⟩

/-! Paths -/

theorem locate_eq_ok_iff :
    disk.locate path = .ok location ↔
      ∃ listed, pieces path = .ok listed ∧ walk disk.tree (disk.start path) listed = .ok location :=
  bind_eq_ok_iff

theorem start_eq (here : after.here = before.here) (path : PathText) :
    after.start path = before.start path := by
  rw [start, start, here]

theorem locate_keeps (keeps : before.Keeps after) (found : before.locate path = .ok location) :
    after.locate path = .ok location := by
  obtain ⟨listed, taken, walked⟩ := locate_eq_ok_iff.mp found
  refine locate_eq_ok_iff.mpr ⟨listed, taken, ?_⟩
  rw [start_eq keeps.here]
  exact walk_keeps keeps.tree walked

theorem entry_eq_ok_iff {entry : Entry} :
    disk.entry path = .ok entry ↔
      ∃ location, disk.locate path = .ok location ∧ disk.tree.find? location = some entry := by
  simp only [Disk.entry, bind_eq_ok_iff]
  refine exists_congr fun location => and_congr_right fun _ => ?_
  rcases disk.tree.find? location with _ | found <;> simp

theorem isDirectory_iff :
    disk.isDirectory path = true ↔
      ∃ location, disk.locate path = .ok location ∧ disk.tree.IsDirectory location := by
  simp only [FileTree.IsDirectory, ← entry_eq_ok_iff, isDirectory]
  rcases disk.entry path with fault | _ | ⟨mode, bytes⟩ <;> simp

theorem isDirectory_keeps (keeps : before.Keeps after) (found : before.isDirectory path = true) :
    after.isDirectory path = true := by
  obtain ⟨location, located, directory⟩ := isDirectory_iff.mp found
  exact isDirectory_iff.mpr ⟨location, locate_keeps keeps located, keeps.tree directory⟩

theorem place_of_pieces {front : List PathText} {above : Location}
    (taken : pieces path = .ok (front ++ [name]))
    (walked : walk disk.tree (disk.start path) front = .ok above)
    (inside : disk.tree.IsDirectory above) :
    disk.place path =
      if name = [] ∨ name = [.char '.'] ∨ name = [.char '.', .char '.'] then .error .alreadyExists
      else enter above name := by
  simp only [place, taken, bind, Except.bind, List.dropLast_concat,
    walk_concat_nil_eq_ok_iff.mpr ⟨walked, inside⟩, List.getLast?_concat, Option.getD_some]

theorem place_eq_ok_iff :
    disk.place path = .ok location ↔
      ∃ front name above, pieces path = .ok (front ++ [name]) ∧ IsName name ∧
        walk disk.tree (disk.start path) front = .ok above ∧ disk.tree.IsDirectory above ∧
        location = above ++ [name] := by
  constructor
  · intro placed
    obtain ⟨listed, taken, rest⟩ := bind_eq_ok_iff.mp placed
    obtain ⟨above, walked, -⟩ := bind_eq_ok_iff.mp rest
    obtain ⟨front, name, rfl⟩ := exists_eq_concat_of_pieces taken
    rw [List.dropLast_concat] at walked
    obtain ⟨walked, inside⟩ := walk_concat_nil_eq_ok_iff.mp walked
    rw [place_of_pieces taken walked inside] at placed
    split at placed
    · cases placed
    · rename_i proper
      have isName := isName_of_enter placed proper
      rw [enter_of_isName isName] at placed
      exact ⟨front, name, above, taken, isName, walked, inside, (Except.ok.inj placed).symm⟩
  · rintro ⟨front, name, above, taken, isName, walked, inside, rfl⟩
    have proper : ¬(name = [] ∨ name = [.char '.'] ∨ name = [.char '.', .char '.']) := by
      simp [isName.1, isName.2.1, isName.2.2.1]
    rw [place_of_pieces taken walked inside, if_neg proper, enter_of_isName isName]

theorem place_ne_nil (placed : disk.place path = .ok location) : location ≠ [] := by
  obtain ⟨_, _, _, -, -, -, -, rfl⟩ := place_eq_ok_iff.mp placed
  simp

theorem locate_of_place (placed : disk.place path = .ok location) :
    disk.locate path = .ok location := by
  obtain ⟨front, name, above, taken, isName, walked, directory, rfl⟩ := place_eq_ok_iff.mp placed
  refine locate_eq_ok_iff.mpr ⟨front ++ [name], taken, walk_append_eq_ok_iff.mpr ?_⟩
  exact ⟨above, walked, walk_singleton_eq_ok_iff.mpr ⟨directory, enter_of_isName isName above⟩⟩

theorem place_keeps (keeps : before.Keeps after) (placed : before.place path = .ok location) :
    after.place path = .ok location := by
  obtain ⟨front, name, above, taken, isName, walked, directory, rfl⟩ := place_eq_ok_iff.mp placed
  refine place_eq_ok_iff.mpr ⟨front, name, above, taken, isName, ?_, keeps.tree directory, rfl⟩
  rw [start_eq keeps.here]
  exact walk_keeps keeps.tree walked

end Supervision.Disk
