import Supervision.Disk.Change
import Supervision.Proofs.Disk.Walk

/-!
Making directories. Nothing but directories is added, each where the path or one above it leads,
whether or not the whole succeeds; when it does, doing it again changes nothing.
-/

namespace Supervision.Disk

open PathText Text Outcome

variable {disk before middle after made : Disk} {tree : FileTree} {start location : Location}
  {path : PathText} {paths listed : List PathText}

/-! Slashes at the end -/

theorem exists_eq_dropSlashes_append (path : PathText) :
    ∃ count, path = dropSlashes path ++ List.replicate count (.char '/') := by
  obtain ⟨back, uniform, -⟩ := takeWhile_dropWhile_iff.mp
    ⟨rfl, (rfl : path.reverse.dropWhile (· = .char '/') = _)⟩
  generalize path.reverse.takeWhile (· = .char '/') = found at back uniform
  have slashes : found = List.replicate found.length (.char '/') :=
    List.eq_replicate_iff.mpr ⟨rfl, fun letter member => by simpa using uniform letter member⟩
  refine ⟨found.length, ?_⟩
  calc path = (found ++ path.reverse.dropWhile (· = .char '/')).reverse := by
        rw [← back, List.reverse_reverse]
    _ = dropSlashes path ++ found.reverse := List.reverse_append
    _ = _ := by rw [slashes, List.reverse_replicate, List.length_replicate]

theorem splitWhere_replicate_slash (count : Nat) :
    splitWhere (· = Letter.char '/') (List.replicate count (.char '/')) =
      List.replicate (count + 1) [] := by
  induction count with
  | zero => rfl
  | succ count ih =>
      have first : splitWhere (· = Letter.char '/') (.char '/' :: List.replicate count (.char '/')) =
          [] :: splitWhere (· = .char '/') (List.replicate count (.char '/')) := by simp [splitWhere]
      rw [List.replicate_succ, first, ih]
      rfl

theorem splitWhere_append_slashes (text : PathText) (count : Nat) :
    splitWhere (· = .char '/') (text ++ List.replicate count (.char '/')) =
      splitWhere (· = .char '/') text ++ List.replicate count [] := by
  cases count with
  | zero => simp
  | succ count =>
      rw [List.replicate_succ, splitWhere_append (by simp), splitWhere_replicate_slash]

theorem pieces_dropSlashes (taken : pieces path = .ok listed) (proper : dropSlashes path ≠ []) :
    ∃ shorter count, pieces (dropSlashes path) = .ok shorter ∧
      listed = shorter ++ List.replicate count [] := by
  obtain ⟨noNul, -, short, rfl⟩ := pieces_eq_ok_iff.mp taken
  obtain ⟨count, whole⟩ := exists_eq_dropSlashes_append path
  refine ⟨_, count, pieces_eq_ok_iff.mpr ⟨?_, proper, ?_, rfl⟩, ?_⟩
  · intro nul
    exact noNul (whole ▸ List.mem_append_left _ nul)
  · have total := congrArg byteLength whole
    rw [byteLength_append] at total
    omega
  · rw [← splitWhere_append_slashes, ← whole]

theorem start_dropSlashes (proper : dropSlashes path ≠ []) (disk : Disk) :
    disk.start (dropSlashes path) = disk.start path := by
  obtain ⟨count, whole⟩ := exists_eq_dropSlashes_append path
  have sameHead : (dropSlashes path ++ List.replicate count (Letter.char '/')).head? =
      (dropSlashes path).head? := List.head?_append_of_ne_nil _ proper
  rw [← whole] at sameHead
  rw [start, start, sameHead]

theorem walk_append_replicate_iff {result : Location} (directory : tree.IsDirectory result)
    (count : Nat) :
    walk tree start (listed ++ List.replicate count []) = .ok result ↔
      walk tree start listed = .ok result := by
  induction count with
  | zero => simp
  | succ count ih =>
      rw [List.replicate_succ', ← List.append_assoc, walk_concat_nil_eq_ok_iff, ih]
      exact and_iff_left directory

theorem locate_dropSlashes_iff (taken : pieces path = .ok listed) (proper : dropSlashes path ≠ [])
    (directory : disk.tree.IsDirectory location) :
    disk.locate (dropSlashes path) = .ok location ↔ disk.locate path = .ok location := by
  obtain ⟨shorter, count, shortened, rfl⟩ := pieces_dropSlashes taken proper
  simp only [locate_eq_ok_iff, taken, shortened, Except.ok.injEq, exists_eq_left',
    start_dropSlashes proper, walk_append_replicate_iff directory]

/-! One directory -/

theorem makeDirectory_eq_ok_iff :
    disk.makeDirectory path = .ok made ↔
      (∃ listed, pieces path = .ok listed) ∧ dropSlashes path ≠ [] ∧
        ∃ location, disk.place (dropSlashes path) = .ok location ∧
          disk.tree.find? location = none ∧
          made = { disk with tree := disk.tree.put location .directory } := by
  simp only [makeDirectory, bind_eq_ok_iff, List.isEmpty_iff]
  constructor
  · rintro ⟨listed, taken, rest⟩
    split at rest
    · cases rest
    · rename_i proper
      obtain ⟨location, placed, rest⟩ := bind_eq_ok_iff.mp rest
      split at rest
      · cases rest
      · rename_i free
        cases rest
        exact ⟨⟨listed, taken⟩, proper, location, placed, free, rfl⟩
  · rintro ⟨⟨listed, taken⟩, proper, location, placed, free, rfl⟩
    refine ⟨listed, taken, ?_⟩
    rw [if_neg proper]
    exact bind_eq_ok_iff.mpr ⟨location, placed, by rw [free]⟩

/-- Nothing is left to be made for the path. The empty path asks for nothing. -/
def HasDirectory (disk : Disk) (path : PathText) : Prop :=
  path = [] ∨ disk.isDirectory path = true

theorem HasDirectory.keeps (keeps : before.Keeps after) (has : before.HasDirectory path) :
    after.HasDirectory path :=
  has.imp_right (isDirectory_keeps keeps)

/-- Nothing but directories was added, each where one of the paths leads. -/
structure Reaches (paths : List PathText) (before after : Disk) : Prop extends Grows before after where
  reached : ∀ ⦃location⦄, before.tree.find? location = none → after.tree.IsDirectory location →
    ∃ path ∈ paths, after.locate path = .ok location

theorem Reaches.refl (paths : List PathText) (disk : Disk) : Reaches paths disk disk where
  toGrows := .refl disk
  reached location free directory := by
    rw [FileTree.IsDirectory, free] at directory
    cases directory

theorem Reaches.trans (first : Reaches paths before middle) (second : Reaches paths middle after) :
    Reaches paths before after where
  toGrows := first.toGrows.trans second.toGrows
  reached location free directory := by
    rcases first.tree location with same | ⟨-, earlier⟩
    · exact second.reached (same.trans free) directory
    · obtain ⟨path, listed, located⟩ := first.reached free earlier
      exact ⟨path, listed, locate_keeps second.keeps located⟩

theorem Reaches.mono {fewer : List PathText} (reaches : Reaches fewer before after)
    (subset : fewer ⊆ paths) : Reaches paths before after where
  toGrows := reaches.toGrows
  reached location free directory := by
    obtain ⟨path, listed, located⟩ := reaches.reached free directory
    exact ⟨path, subset listed, located⟩

theorem exists_of_makeDirectory (done : disk.makeDirectory path = .ok made) :
    ∃ location, location ≠ [] ∧ disk.tree.find? location = none ∧
      made = { disk with tree := disk.tree.put location .directory } ∧
      disk.Grows made ∧ made.locate path = .ok location := by
  obtain ⟨⟨listed, taken⟩, proper, location, placed, free, rfl⟩ := makeDirectory_eq_ok_iff.mp done
  have named := place_ne_nil placed
  have grows : disk.Grows { disk with tree := disk.tree.put location .directory } :=
    ⟨rfl, .put_directory named free⟩
  have directory : (disk.tree.put location .directory).IsDirectory location :=
    FileTree.find?_put_self named
  have located := locate_keeps grows.keeps (locate_of_place placed)
  exact ⟨location, named, free, rfl, grows,
    (locate_dropSlashes_iff taken proper directory).mp located⟩

theorem isDirectory_of_makeDirectory (done : disk.makeDirectory path = .ok made) :
    made.isDirectory path = true := by
  obtain ⟨location, named, -, rfl, -, located⟩ := exists_of_makeDirectory done
  exact isDirectory_iff.mpr ⟨location, located, FileTree.find?_put_self named⟩

theorem reaches_makeDirectory (done : disk.makeDirectory path = .ok made) :
    Reaches [path] disk made := by
  obtain ⟨location, named, -, rfl, grows, located⟩ := exists_of_makeDirectory done
  refine ⟨grows, ?_⟩
  intro other absent found
  have same : other = location := by
    by_contra different
    rw [FileTree.IsDirectory, FileTree.find?_put named, if_neg different, absent] at found
    cases found
  exact ⟨path, List.mem_singleton_self path, same ▸ located⟩

theorem makeDirectory_of_isDirectory (found : disk.isDirectory path = true) :
    disk.makeDirectory path = .error .alreadyExists := by
  obtain ⟨location, located, directory⟩ := isDirectory_iff.mp found
  obtain ⟨listed, taken, -⟩ := locate_eq_ok_iff.mp located
  by_cases proper : dropSlashes path = []
  · simp [makeDirectory, taken, proper, bind, Except.bind]
  · -- The last piece is a name that is taken, or one that names no entry.
    have shorter := (locate_dropSlashes_iff taken proper directory).mpr located
    obtain ⟨all, shortened, walked⟩ := locate_eq_ok_iff.mp shorter
    obtain ⟨front, name, rfl⟩ := exists_eq_concat_of_pieces shortened
    obtain ⟨above, climbed, last⟩ := walk_append_eq_ok_iff.mp walked
    obtain ⟨inside, entered⟩ := walk_singleton_eq_ok_iff.mp last
    rw [makeDirectory, taken]
    simp only [bind, Except.bind, List.isEmpty_iff, if_neg proper]
    rw [place_of_pieces shortened climbed inside]
    by_cases silent : name = [] ∨ name = [.char '.'] ∨ name = [.char '.', .char '.']
    · rw [if_pos silent]
    · have occupied : disk.tree.find? location = some .directory := directory
      simp only [if_neg silent, entered, occupied]

/-! All directories on the way -/

theorem ensureFirst_cons (path : PathText) (above : List PathText) (disk : Disk) :
    path = [] ∧ ensureFirst (path :: above) disk = (none, disk) ∨
      (∃ fault, ensureFirst (path :: above) disk = (some fault, (ensureFirst above disk).2)) ∨
      ∃ ready, (ready = disk ∨ ready = (ensureFirst above disk).2) ∧
        ((∃ made, ready.makeDirectory path = .ok made ∧
            ensureFirst (path :: above) disk = (none, made)) ∨
          ∃ fault, ensureFirst (path :: above) disk = ready.accept path fault) := by
  rw [ensureFirst]
  split
  · rename_i empty
    exact Or.inl ⟨List.isEmpty_iff.mp empty, rfl⟩
  · split
    · rename_i made done
      exact Or.inr (Or.inr ⟨disk, Or.inl rfl, Or.inl ⟨made, done, rfl⟩⟩)
    · rcases ensureFirst above disk with ⟨_ | fault, ready⟩
      · refine Or.inr (Or.inr ⟨ready, Or.inr rfl, ?_⟩)
        rcases done : ready.makeDirectory path with fault | made
        · exact Or.inr ⟨fault, by simp only [done]⟩
        · exact Or.inl ⟨made, rfl, by simp only [done]⟩
      · exact Or.inr (Or.inl ⟨fault, rfl⟩)
    · rename_i fault _ _
      exact Or.inr (Or.inr ⟨disk, Or.inl rfl, Or.inr ⟨fault, rfl⟩⟩)

theorem reaches_ensureFirst (paths : List PathText) (disk : Disk) :
    Reaches paths disk (ensureFirst paths disk).2 := by
  induction paths generalizing disk with
  | nil => exact .refl [] disk
  | cons path above ih =>
      have earlier : Reaches (path :: above) disk (ensureFirst above disk).2 :=
        (ih disk).mono (List.subset_cons_self path above)
      rcases ensureFirst_cons path above disk with
        ⟨-, result⟩ | ⟨fault, result⟩ | ⟨ready, choice, ⟨made, done, result⟩ | ⟨fault, result⟩⟩
      · rw [result]
        exact .refl _ disk
      · rw [result]
        exact earlier
      all_goals
        have before : Reaches (path :: above) disk ready := by
          rcases choice with rfl | rfl
          · exact .refl _ _
          · exact earlier
      · rw [result]
        exact before.trans ((reaches_makeDirectory done).mono (by simp))
      · rw [result]
        exact before

theorem hasDirectory_ensureFirst {above : List PathText}
    (done : ensureFirst (path :: above) disk = (none, after)) : after.HasDirectory path := by
  rcases ensureFirst_cons path above disk with
    ⟨empty, -⟩ | ⟨fault, result⟩ | ⟨ready, -, ⟨made, last, result⟩ | ⟨fault, result⟩⟩
  · exact Or.inl empty
  · cases done.symm.trans result
  · cases done.symm.trans result
    exact Or.inr (isDirectory_of_makeDirectory last)
  · have accepted := done.symm.trans result
    simp only [accept, Prod.mk.injEq] at accepted
    obtain ⟨test, rfl⟩ := accepted
    refine Or.inr ?_
    by_contra other
    simp [other] at test

theorem reaches_ensureDirectory (disk : Disk) (path : PathText) :
    Reaches (ancestors (path.length + 1) path) disk (disk.ensureDirectory path).2 :=
  reaches_ensureFirst _ disk

theorem hasDirectory_of_ensureDirectory (done : disk.ensureDirectory path = (none, after)) :
    after.HasDirectory path :=
  hasDirectory_ensureFirst done

theorem ensureDirectory_of_hasDirectory (has : disk.HasDirectory path) :
    disk.ensureDirectory path = (none, disk) := by
  rw [ensureDirectory, ancestors, ensureFirst]
  rcases has with rfl | found
  · rfl
  · rw [makeDirectory_of_isDirectory found]
    simp [accept, found]

end Supervision.Disk
