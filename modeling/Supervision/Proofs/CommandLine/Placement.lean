import Supervision.CommandLine.Session
import Supervision.Proofs.Disk.Directories
import Supervision.Proofs.Disk.Replacement

/-!
Putting a configuration in place on a disk: its directories, then its document. A failure leaves
new directories at most. After a success there is nothing left to do.
-/

namespace Supervision

open Text Outcome

namespace Disk

def ensureAll : List PathText → Disk → Except Failure Unit × Disk
  | [], disk => (.ok (), disk)
  | path :: paths, disk =>
      match disk.ensureDirectory path with
      | (none, made) => ensureAll paths made
      | (some _, made) => (.error (.cannotCreateDirectory path), made)

def placeFile (disk : Disk) (directories : List PathText) (path : PathText) (contents : Text) :
    Except Failure Unit × Disk :=
  match ensureAll directories disk with
  | (.error failure, ready) => (.error failure, ready)
  | (.ok _, ready) =>
      match ready.replaceFile path contents with
      | (none, after) => (.ok (), after)
      | (some fault, held) =>
          (.error (CommandLine.Session.writeFailure fault), held.release fault)

/-- Both paths lead to the same place. -/
def SamePlace (disk : Disk) (left right : PathText) : Prop :=
  ∃ location, disk.locate left = .ok location ∧ disk.locate right = .ok location

variable {disk ready after : Disk} {paths directories : List PathText} {path : PathText}
  {text contents : Text} {location : Location} {failure : Failure}

/-! Directories -/

theorem ensureAll_cons_eq_ok_iff :
    ensureAll (path :: paths) disk = (.ok (), ready) ↔
      ∃ made, disk.ensureDirectory path = (none, made) ∧ ensureAll paths made = (.ok (), ready) := by
  rw [ensureAll]
  rcases disk.ensureDirectory path with ⟨_ | fault, made⟩ <;> simp

theorem grows_ensureAll (paths : List PathText) (disk : Disk) :
    disk.Grows (ensureAll paths disk).2 := by
  induction paths generalizing disk with
  | nil => exact .refl disk
  | cons path paths ih =>
      have first := (reaches_ensureDirectory disk path).toGrows
      rw [ensureAll]
      rcases result : disk.ensureDirectory path with ⟨_ | fault, made⟩
      · rw [result] at first
        exact first.trans (ih made)
      · rw [result] at first
        exact first

theorem grows_of_ensureAll (done : ensureAll paths disk = (.ok (), ready)) : disk.Grows ready := by
  have grows := grows_ensureAll paths disk
  rw [done] at grows
  exact grows

theorem hasDirectory_of_ensureAll (done : ensureAll paths disk = (.ok (), ready))
    (member : path ∈ paths) : ready.HasDirectory path := by
  induction paths generalizing disk with
  | nil => cases member
  | cons first paths ih =>
      obtain ⟨made, begun, later⟩ := ensureAll_cons_eq_ok_iff.mp done
      rcases List.mem_cons.mp member with rfl | member
      · exact (hasDirectory_of_ensureDirectory begun).keeps (grows_of_ensureAll later).keeps
      · exact ih later member

theorem ensureAll_of_hasDirectory (all : ∀ path ∈ paths, disk.HasDirectory path) :
    ensureAll paths disk = (.ok (), disk) := by
  induction paths with
  | nil => rfl
  | cons path paths ih =>
      obtain ⟨first, others⟩ := List.forall_mem_cons.mp all
      exact ensureAll_cons_eq_ok_iff.mpr ⟨disk, ensureDirectory_of_hasDirectory first, ih others⟩

/-! The file -/

theorem placeFile_eq_ok_iff :
    disk.placeFile directories path contents = (.ok (), after) ↔
      ∃ ready, ensureAll directories disk = (.ok (), ready) ∧
        ready.replaceFile path contents = (none, after) := by
  rw [placeFile]
  rcases ensureAll directories disk with ⟨failure | _, ready⟩
  · simp
  · rcases result : ready.replaceFile path contents with ⟨_ | fault, after⟩ <;> simp [result]

theorem grows_of_placeFile_error
    (failed : disk.placeFile directories path contents = (.error failure, after)) :
    disk.Grows after := by
  have grows := grows_ensureAll directories disk
  rw [placeFile] at failed
  rcases ensured : ensureAll directories disk with ⟨other | _, ready⟩
  · simp only [ensured, Prod.mk.injEq] at failed grows
    exact failed.2 ▸ grows
  · rcases replaced : ready.replaceFile path contents with ⟨_ | fault, left⟩
    · simp [ensured, replaced] at failed
    · have released := release_of_replaceFile replaced
      simp only [ensured, replaced, released, Prod.mk.injEq] at failed grows
      exact failed.2 ▸ grows

theorem keeps_of_placeFile (done : disk.placeFile directories path contents = (.ok (), after)) :
    disk.Keeps after := by
  obtain ⟨ready, ensured, replaced⟩ := placeFile_eq_ok_iff.mp done
  exact (grows_of_ensureAll ensured).keeps.trans (keeps_of_replaceFile replaced)

theorem entry_of_placeFile (done : disk.placeFile directories path contents = (.ok (), after)) :
    ∃ mode, after.entry path = .ok (.file mode (asString contents).toUTF8) := by
  obtain ⟨ready, -, replaced⟩ := placeFile_eq_ok_iff.mp done
  exact entry_of_replaceFile replaced

/-- What was there stays, unless the path leads to it. -/
theorem find?_of_placeFile (done : disk.placeFile directories path contents = (.ok (), after))
    {entry : Entry} (found : disk.tree.find? location = some entry)
    (apart : after.locate path ≠ .ok location) : after.tree.find? location = some entry := by
  obtain ⟨ready, ensured, replaced⟩ := placeFile_eq_ok_iff.mp done
  rw [find?_of_replaceFile replaced apart]
  exact (grows_of_ensureAll ensured).tree.find?_eq_some found

/-! Reading afterwards -/

theorem entry_of_readText (read : disk.readText path = .ok text) :
    ∃ mode bytes, disk.entry path = .ok (.file mode bytes) := by
  obtain ⟨entry, found, rest⟩ := bind_eq_ok_iff.mp read
  cases entry with
  | directory => cases rest
  | file mode bytes => exact ⟨mode, bytes, found⟩

theorem readText_congr (same : after.entry path = disk.entry path) :
    after.readText path = disk.readText path := by
  rw [readText, readText, same]

theorem readText_of_placeFile {target : PathText}
    (done : disk.placeFile directories target contents = (.ok (), after))
    (read : disk.readText path = .ok text) (apart : ¬after.SamePlace target path) :
    after.readText path = .ok text := by
  obtain ⟨mode, bytes, entered⟩ := entry_of_readText read
  obtain ⟨location, located, found⟩ := entry_eq_ok_iff.mp entered
  have still : after.locate path = .ok location := locate_keeps (keeps_of_placeFile done) located
  have elsewhere : after.locate target ≠ .ok location :=
    fun same => apart ⟨location, same, still⟩
  have kept := entry_eq_ok_iff.mpr ⟨location, still, find?_of_placeFile done found elsewhere⟩
  rw [readText_congr (kept.trans entered.symm), read]

/-! Once more -/

theorem placeFile_again (done : disk.placeFile directories path contents = (.ok (), after)) :
    after.placeFile directories path contents = (.ok (), after) := by
  obtain ⟨ready, ensured, replaced⟩ := placeFile_eq_ok_iff.mp done
  have keeps := keeps_of_replaceFile replaced
  have all : ∀ directory ∈ directories, after.HasDirectory directory :=
    fun directory member => (hasDirectory_of_ensureAll ensured member).keeps keeps
  exact placeFile_eq_ok_iff.mpr
    ⟨after, ensureAll_of_hasDirectory all, replaceFile_again replaced⟩

end Disk

end Supervision
