import Mathlib.Data.List.Perm.Subperm
import Mathlib.Data.List.Nodup
import Supervision.Disk.Change
import Supervision.Proofs.Disk.Walk

/-!
Replacing files. Either the new contents are in place and there is no temporary file any more, or
the fault owns it, and nothing has changed once the fault is released.
-/

namespace Supervision.Disk

open PathText Text Outcome

variable {disk before after held : Disk} {location temporary : Location} {path : PathText}
  {contents : Text} {fault : WriteFault} {mode : Nat} {bytes : ByteArray}

/-! Names for temporary files -/

theorem temporaryName_injective : Function.Injective temporaryName := by
  intro left right same
  have digits : ofNat (100000 + left) = ofNat (100000 + right) :=
    List.append_cancel_left (ofText_inj.mp same)
  have numbers := congrArg (Nat.ofDigitChars 10 · 0) digits
  simp only [ofNat, Nat.ofDigitChars_ten_toDigits] at numbers
  omega

/-- A tree has fewer entries than names are tried. -/
theorem exists_temporaryName_free (tree : FileTree) (directory : Location) :
    ∃ number < tree.entries.length + 1,
      tree.find? (directory ++ [temporaryName number]) = none := by
  -- Otherwise the entries would hold more locations than there are entries.
  by_contra taken
  push Not at taken
  have injective : Function.Injective fun number => directory ++ [temporaryName number] := by
    intro left right same
    exact temporaryName_injective (by simpa using same)
  have listed : (List.range (tree.entries.length + 1)).map
      (fun number => directory ++ [temporaryName number]) ⊆ tree.entries.map Prod.fst := by
    intro location member
    obtain ⟨number, below, rfl⟩ := List.mem_map.mp member
    have occupied := taken number (List.mem_range.mp below)
    rw [FileTree.find?_eq_lookup (by simp)] at occupied
    by_contra absent
    refine occupied (List.lookup_eq_none_iff.mpr fun entry held => bne_iff_ne.mpr ?_)
    rintro same
    exact absent (same ▸ List.mem_map_of_mem held)
  have counted := (List.subperm_of_subset (List.nodup_range.map injective) listed).length_le
  rw [List.length_map, List.length_map, List.length_range] at counted
  omega

theorem find?_freeName (tree : FileTree) (directory : Location) :
    tree.find? (directory ++ [freeName tree directory]) = none := by
  obtain ⟨number, below, free⟩ := exists_temporaryName_free tree directory
  have found : (((List.range (tree.entries.length + 1)).map temporaryName).find? fun name =>
      (tree.find? (directory ++ [name])).isNone).isSome := by
    rw [List.find?_isSome]
    exact ⟨temporaryName number, List.mem_map_of_mem (List.mem_range.mpr below), by simp [free]⟩
  obtain ⟨name, first⟩ := Option.isSome_iff_exists.mp found
  have isNone := List.find?_some first
  rw [freeName, first]
  exact Option.isNone_iff_eq_none.mp isNone

theorem exists_temporaryPlace {directory : PathText} (takes : disk.takesTemporary directory = true) :
    ∃ temporary, disk.temporaryPlace directory = .ok temporary ∧ temporary ≠ [] ∧
      disk.tree.find? temporary = none := by
  obtain ⟨found, -⟩ := Bool.and_eq_true_iff.mp takes
  obtain ⟨above, located, -⟩ := isDirectory_iff.mp found
  refine ⟨above ++ [freeName disk.tree above], ?_, by simp, find?_freeName disk.tree above⟩
  rw [temporaryPlace, located]
  exact if_pos takes

theorem exists_temporaryPlace_error {directory : PathText}
    (refuses : ¬disk.takesTemporary directory = true) :
    ∃ fault, disk.temporaryPlace directory = .error fault := by
  rw [temporaryPlace]
  rcases disk.locate directory with fault | above
  · exact ⟨fault, rfl⟩
  · exact ⟨_, if_neg refuses⟩

theorem takesTemporary_keeps {directory : PathText} (keeps : before.Keeps after)
    (takes : before.takesTemporary directory = true) : after.takesTemporary directory = true := by
  obtain ⟨found, short⟩ := Bool.and_eq_true_iff.mp takes
  refine Bool.and_eq_true_iff.mpr ⟨isDirectory_keeps keeps found, ?_⟩
  rw [temporaryPath, workingDirectory, keeps.here]
  exact short

/-! Modes -/

def permissions (mode : Nat) : Nat :=
  mode % 0o1000

def modeBefore : Option Entry → Nat
  | some (.file mode _) => mode
  | _ => newFileMode

def modeFilled (mode : Nat) (contents : Text) : Nat :=
  if contents.isEmpty then mode else modeWritten mode

theorem modeWritten_modeWritten (mode : Nat) :
    modeWritten (modeWritten mode) = modeWritten mode := by
  unfold modeWritten
  split_ifs <;> omega

theorem modeFilled_modeFilled (mode : Nat) (contents : Text) :
    modeFilled (modeFilled mode contents) contents = modeFilled mode contents := by
  unfold modeFilled
  split_ifs
  · rfl
  · exact modeWritten_modeWritten mode

theorem keeps_put_file (named : location ≠ []) (notDirectory : ¬disk.tree.IsDirectory location) :
    disk.Keeps (disk.put location (.file mode bytes)) :=
  ⟨rfl, FileTree.keeps_put_file named notDirectory⟩

theorem not_isDirectory_of_free (free : disk.tree.find? location = none) :
    ¬disk.tree.IsDirectory location := by
  rw [FileTree.IsDirectory, free]
  exact (Option.some_ne_none _).symm

/-- A file that is added leads no path to a new place. -/
theorem place_put_file_iff (named : temporary ≠ []) (free : disk.tree.find? temporary = none) :
    (disk.put temporary (.file mode bytes)).place path = .ok location ↔
      disk.place path = .ok location :=
  ⟨place_keeps ⟨rfl, FileTree.put_file_keeps named⟩,
    place_keeps (keeps_put_file named (not_isDirectory_of_free free))⟩

theorem moveFile_of_place (named : temporary ≠ []) (free : disk.tree.find? temporary = none)
    (placed : disk.place path = .ok location) (notDirectory : ¬disk.tree.IsDirectory location) :
    (disk.put temporary (.file mode bytes)).moveFile temporary path =
      .ok (disk.put location (.file mode bytes)) := by
  have stays : ¬(disk.put temporary (.file mode bytes)).tree.IsDirectory location :=
    fun directory => notDirectory (FileTree.put_file_keeps named directory)
  have moved : (disk.tree.put temporary (.file mode bytes)).move temporary location =
      disk.tree.put location (.file mode bytes) := FileTree.move_put named free
  rw [moveFile, (place_put_file_iff named free).mpr placed]
  simp only [bind, Except.bind]
  split
  · rename_i directory
    exact absurd directory stays
  · exact congrArg (fun tree => Except.ok { disk with tree }) moved

theorem exists_moveFile_error (named : temporary ≠ []) (free : disk.tree.find? temporary = none)
    (refused : ∀ location, disk.place path = .ok location → disk.tree.IsDirectory location) :
    ∃ fault, (disk.put temporary (.file mode bytes)).moveFile temporary path = .error fault := by
  rw [moveFile]
  rcases placed : (disk.put temporary (.file mode bytes)).place path with fault | location
  · exact ⟨fault, rfl⟩
  · have directory : (disk.put temporary (.file mode bytes)).tree.find? location =
        some .directory :=
      FileTree.keeps_put_file named (not_isDirectory_of_free free)
        (refused location ((place_put_file_iff named free).mp placed))
    exact ⟨.isDirectory, by simp only [bind, Except.bind, directory]⟩

theorem placed_or_refused (disk : Disk) (path : PathText) :
    (∃ location, disk.place path = .ok location ∧ ¬disk.tree.IsDirectory location) ∨
      ∀ location, disk.place path = .ok location → disk.tree.IsDirectory location := by
  by_cases accepted : ∃ location, disk.place path = .ok location ∧
      ¬disk.tree.IsDirectory location
  · exact Or.inl accepted
  · refine Or.inr fun location placed => ?_
    by_contra notDirectory
    exact accepted ⟨location, placed, notDirectory⟩

theorem replacedMode_of_place (placed : disk.place path = .ok location)
    (notDirectory : ¬disk.tree.IsDirectory location) :
    disk.replacedMode path = modeBefore (disk.tree.find? location) := by
  simp only [replacedMode, Disk.entry, locate_of_place placed, bind, Except.bind]
  rcases found : disk.tree.find? location with _ | _ | ⟨mode, bytes⟩
  · rfl
  · exact absurd found notDirectory
  · rfl

theorem put_put (disk : Disk) (location : Location) (old entry : Entry) :
    (disk.put location old).put location entry = disk.put location entry :=
  congrArg (fun tree => { disk with tree }) (FileTree.put_put disk.tree location old entry)

theorem fill_put (disk : Disk) (location : Location) (mode : Nat) (contents : Text) :
    (disk.put location (.file mode .empty)).fill location mode contents =
      disk.put location (.file (modeFilled mode contents) (asString contents).toUTF8) := by
  cases contents with
  | nil => rfl
  | cons c contents => exact put_put disk location _ _

theorem replaceThrough_eq (disk : Disk) (temporary : Location) (path : PathText) (contents : Text) :
    disk.replaceThrough temporary path contents = (disk.put temporary
      (.file (modeFilled (disk.replacedMode path) contents) (asString contents).toUTF8)).persist
        temporary path := by
  rw [replaceThrough, put_put, fill_put]

theorem replaceThrough_of_place (named : temporary ≠ [])
    (free : disk.tree.find? temporary = none) (placed : disk.place path = .ok location)
    (notDirectory : ¬disk.tree.IsDirectory location) :
    disk.replaceThrough temporary path contents = (none, disk.put location
      (.file (modeFilled (modeBefore (disk.tree.find? location)) contents)
        (asString contents).toUTF8)) := by
  rw [replaceThrough_eq, persist, moveFile_of_place named free placed notDirectory,
    replacedMode_of_place placed notDirectory]

theorem replaceThrough_of_refused (named : temporary ≠ [])
    (free : disk.tree.find? temporary = none)
    (refused : ∀ location, disk.place path = .ok location → disk.tree.IsDirectory location)
    (contents : Text) :
    ∃ mode bytes, disk.replaceThrough temporary path contents =
      (some (.move path temporary), disk.put temporary (.file mode bytes)) := by
  rw [replaceThrough_eq]
  generalize modeFilled (disk.replacedMode path) contents = mode
  generalize (asString contents).toUTF8 = bytes
  obtain ⟨fault, failed⟩ :
      ∃ fault, (disk.put temporary (.file mode bytes)).moveFile temporary path = .error fault :=
    exists_moveFile_error named free refused
  exact ⟨mode, bytes, by rw [persist, failed]⟩

/-! What a replacement does -/

theorem replaceFile_of_takes (takes : disk.takesTemporary (Path.containing path) = true)
    (contents : Text) :
    ∃ temporary, temporary ≠ [] ∧ disk.tree.find? temporary = none ∧
      disk.replaceFile path contents = disk.replaceThrough temporary path contents := by
  obtain ⟨temporary, made, named, free⟩ := exists_temporaryPlace takes
  exact ⟨temporary, named, free, by rw [replaceFile, made]⟩

theorem replaceFile_of_not_takes (refuses : ¬disk.takesTemporary (Path.containing path) = true)
    (contents : Text) :
    disk.replaceFile path contents = (some (.temporary (Path.containing path)), disk) := by
  obtain ⟨fault, failed⟩ := exists_temporaryPlace_error refuses
  rw [replaceFile, failed]

/-- A replacement succeeds when its directory takes a temporary file and the path leads to a place
that is no directory. Then the file is there, and all else is as it was. -/
theorem replaceFile_eq_none_iff :
    disk.replaceFile path contents = (none, after) ↔
      disk.takesTemporary (Path.containing path) = true ∧
        ∃ location, disk.place path = .ok location ∧ ¬disk.tree.IsDirectory location ∧
          after = disk.put location (.file (modeFilled (modeBefore (disk.tree.find? location)) contents)
            (asString contents).toUTF8) := by
  by_cases takes : disk.takesTemporary (Path.containing path) = true
  · obtain ⟨temporary, named, free, through⟩ := replaceFile_of_takes takes contents
    rw [through, and_iff_right takes]
    constructor
    · intro done
      rcases disk.placed_or_refused path with ⟨location, placed, notDirectory⟩ | refused
      · rw [replaceThrough_of_place named free placed notDirectory] at done
        exact ⟨location, placed, notDirectory, (Prod.mk.inj done).2.symm⟩
      · obtain ⟨mode, bytes, failed⟩ := replaceThrough_of_refused named free refused contents
        cases failed.symm.trans done
    · rintro ⟨location, placed, notDirectory, rfl⟩
      exact replaceThrough_of_place named free placed notDirectory
  · rw [replaceFile_of_not_takes takes]
    exact iff_of_false nofun fun succeeds => takes succeeds.1

/-- What a failed replacement leaves while its fault is held: the file that the fault owns, if it
owns one, and nothing else. -/
inductive Leaves (disk : Disk) (path : PathText) : WriteFault → Disk → Prop
  | nothing : Leaves disk path (.temporary (Path.containing path)) disk
  | file {location : Location} {mode : Nat} {bytes : ByteArray} : location ≠ [] →
      disk.tree.find? location = none →
      Leaves disk path (.move path location) (disk.put location (.file mode bytes))

theorem leaves_of_replaceFile (failed : disk.replaceFile path contents = (some fault, held)) :
    disk.Leaves path fault held := by
  by_cases takes : disk.takesTemporary (Path.containing path) = true
  · obtain ⟨temporary, named, free, through⟩ := replaceFile_of_takes takes contents
    rw [through] at failed
    rcases disk.placed_or_refused path with ⟨location, placed, notDirectory⟩ | refused
    · cases (replaceThrough_of_place named free placed notDirectory).symm.trans failed
    · obtain ⟨mode, bytes, left⟩ := replaceThrough_of_refused named free refused contents
      cases left.symm.trans failed
      exact .file named free
  · cases (replaceFile_of_not_takes takes contents).symm.trans failed
    exact .nothing

theorem Leaves.release_eq (leaves : disk.Leaves path fault held) : held.release fault = disk := by
  cases leaves with
  | nothing => rfl
  | @file location mode bytes named free =>
      have there : (disk.put location (.file mode bytes)).tree.find? location =
          some (.file mode bytes) := FileTree.find?_put_self named
      simp only [release, removeFile, there]
      exact congrArg (fun tree => { disk with tree }) (FileTree.remove_put named free)

theorem release_of_replaceFile (failed : disk.replaceFile path contents = (some fault, held)) :
    held.release fault = disk :=
  (leaves_of_replaceFile failed).release_eq

theorem keeps_of_replaceFile (done : disk.replaceFile path contents = (none, after)) :
    disk.Keeps after := by
  obtain ⟨-, location, placed, notDirectory, rfl⟩ := replaceFile_eq_none_iff.mp done
  exact keeps_put_file (place_ne_nil placed) notDirectory

theorem entry_of_replaceFile (done : disk.replaceFile path contents = (none, after)) :
    ∃ mode, after.entry path = .ok (.file mode (asString contents).toUTF8) := by
  have keeps := keeps_of_replaceFile done
  obtain ⟨-, location, placed, -, rfl⟩ := replaceFile_eq_none_iff.mp done
  exact ⟨_, entry_eq_ok_iff.mpr ⟨location, locate_keeps keeps (locate_of_place placed),
    FileTree.find?_put_self (place_ne_nil placed)⟩⟩

theorem find?_of_replaceFile (done : disk.replaceFile path contents = (none, after))
    (apart : after.locate path ≠ .ok location) :
    after.tree.find? location = disk.tree.find? location := by
  have keeps := keeps_of_replaceFile done
  obtain ⟨-, place, placed, -, rfl⟩ := replaceFile_eq_none_iff.mp done
  have elsewhere : location ≠ place := by
    rintro rfl
    exact apart (locate_keeps keeps (locate_of_place placed))
  exact (FileTree.find?_put (place_ne_nil placed) location).trans (if_neg elsewhere)

theorem replaceFile_again (done : disk.replaceFile path contents = (none, after)) :
    after.replaceFile path contents = (none, after) := by
  have keeps := keeps_of_replaceFile done
  obtain ⟨takes, location, placed, -, rfl⟩ := replaceFile_eq_none_iff.mp done
  have named := place_ne_nil placed
  -- The mode is one that the same contents leave as it is.
  generalize modeIs : modeFilled (modeBefore (disk.tree.find? location)) contents = mode at *
  have steady : modeFilled mode contents = mode := modeIs ▸ modeFilled_modeFilled _ contents
  generalize made : disk.put location (.file mode (asString contents).toUTF8) = filled at *
  have found : filled.tree.find? location = some (.file mode (asString contents).toUTF8) :=
    made ▸ FileTree.find?_put_self named
  have stillFile : ¬filled.tree.IsDirectory location := by
    intro directory
    cases Option.some.inj (found.symm.trans directory)
  have same : filled.put location (.file mode (asString contents).toUTF8) = filled :=
    congrArg (fun tree => { filled with tree }) (FileTree.put_of_find?_eq_some named found)
  refine replaceFile_eq_none_iff.mpr ⟨takesTemporary_keeps keeps takes, location,
    place_keeps keeps placed, stillFile, ?_⟩
  rw [found, modeBefore, steady, same]

end Supervision.Disk
