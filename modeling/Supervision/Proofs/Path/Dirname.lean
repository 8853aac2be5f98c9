import Supervision.Proofs.Path.Components
import Supervision.Proofs.Path.Letter

/-!
The directory part of a path: how its text is cut off, and that it is the same path as the one
above.
-/

namespace Supervision.Path

open Text

def Slashes (text : Text) : Prop :=
  text ≠ [] ∧ ∀ c ∈ text, c = '/'

/-- What stands before the last run of slashes of a path, or that run itself where nothing does. -/
inductive DirectoryPart : Text → Text → Prop
  | before {directory slashes base : Text} : directory ≠ [] → directory.getLast? ≠ some '/' →
      Slashes slashes → '/' ∉ base → DirectoryPart (directory ++ slashes ++ base) directory
  | slashes {directory base : Text} : Slashes directory → '/' ∉ base →
      DirectoryPart (directory ++ base) directory

namespace Slashes

variable {slashes : Text}

theorem reverse_eq (uniform : Slashes slashes) : slashes.reverse = slashes := by
  have replicated : slashes = List.replicate slashes.length '/' :=
    List.eq_replicate_iff.mpr ⟨rfl, uniform.2⟩
  rw [replicated, List.reverse_replicate]

theorem getLast?_append (uniform : Slashes slashes) (front : Text) :
    (front ++ slashes).getLast? = some '/' := by
  rw [List.getLast?_append, List.getLast?_eq_some_getLast uniform.1,
    uniform.2 _ (List.getLast_mem uniform.1)]
  rfl

theorem getLast?_eq (uniform : Slashes slashes) : slashes.getLast? = some '/' :=
  uniform.getLast?_append []

end Slashes

theorem exists_slashes_at_end {front : Text} (ends : front.getLast? = some '/') :
    Slashes front ∨ ∃ directory slashes, directory ≠ [] ∧ directory.getLast? ≠ some '/' ∧
      Slashes slashes ∧ front = directory ++ slashes := by
  obtain ⟨back, uniform, stops⟩ := takeWhile_dropWhile_iff.mp
    ⟨rfl, (rfl : front.reverse.dropWhile (· = '/') = _)⟩
  generalize front.reverse.takeWhile (· = '/') = slashes at back uniform
  generalize front.reverse.dropWhile (· = '/') = directory at back stops
  obtain rfl : front = directory.reverse ++ slashes.reverse := by
    rw [← List.reverse_append, ← back, List.reverse_reverse]
  have present : slashes ≠ [] := by
    rintro rfl
    rw [List.reverse_nil, List.append_nil, List.getLast?_reverse] at ends
    simpa using stops '/' ends
  have run : Slashes slashes.reverse :=
    ⟨mt List.reverse_eq_nil_iff.mp present,
      fun c member => by simpa using uniform c (List.mem_reverse.mp member)⟩
  by_cases empty : directory = []
  · subst empty
    exact Or.inl run
  · refine Or.inr ⟨_, _, mt List.reverse_eq_nil_iff.mp empty, ?_, run, rfl⟩
    intro last
    rw [List.getLast?_reverse] at last
    simpa using stops '/' last

theorem dropWhile_reverse {front base : Text} (ends : ∀ c ∈ front.getLast?, c = '/')
    (uncut : '/' ∉ base) : (front ++ base).reverse.dropWhile (· ≠ '/') = front.reverse := by
  refine (takeWhile_dropWhile_iff.mpr ⟨List.reverse_append, ?_, ?_⟩).2
  · intro c member
    exact decide_eq_true (ne_of_mem_of_not_mem (List.mem_reverse.mp member) uncut)
  · intro c head
    rw [List.head?_reverse] at head
    simp [ends c head]

theorem DirectoryPart.dirname_eq {path directory : Text} (divided : DirectoryPart path directory) :
    dirname path = directory := by
  cases divided with
  | @before _ slashes base nonempty ends uniform uncut =>
      have cutAt := @dropWhile_reverse (directory ++ slashes) base
        (fun c last => Option.some.inj (last.symm.trans (uniform.getLast?_append directory))) uncut
      have last : directory.getLast nonempty ≠ '/' := by
        rwa [List.getLast?_eq_some_getLast nonempty, Ne, Option.some.injEq] at ends
      have mixed : (slashes ++ directory.reverse).all (· = '/') = false := by
        rw [List.all_eq_false]
        exact ⟨_, List.mem_append_right _ (List.mem_reverse.mpr (List.getLast_mem nonempty)),
          by simpa using last⟩
      have cleared : (slashes ++ directory.reverse).dropWhile (· = '/') = directory.reverse := by
        refine (takeWhile_dropWhile_iff.mpr ⟨rfl, by simpa using uniform.2, ?_⟩).2
        intro c head
        rw [List.head?_reverse, List.getLast?_eq_some_getLast nonempty] at head
        obtain rfl := Option.some.inj head
        simpa using last
      rw [dirname, cutAt, List.reverse_append, uniform.reverse_eq]
      simp only [mixed, cleared, Bool.false_eq_true, ↓reduceIte, List.reverse_reverse]
  | @slashes _ base uniform uncut =>
      have cutAt := @dropWhile_reverse directory base
        (fun c last => Option.some.inj (last.symm.trans uniform.getLast?_eq)) uncut
      have every : directory.all (· = '/') = true := by simpa using uniform.2
      rw [dirname, cutAt, uniform.reverse_eq]
      simp only [every, ↓reduceIte]

theorem directoryPart_append {front base : Text} (ends : front.getLast? = some '/')
    (uncut : '/' ∉ base) : DirectoryPart (front ++ base) (dirname (front ++ base)) := by
  obtain ⟨directory, divided⟩ : ∃ directory, DirectoryPart (front ++ base) directory := by
    rcases exists_slashes_at_end ends with
      uniform | ⟨directory, slashes, nonempty, last, uniform, rfl⟩
    · exact ⟨front, .slashes uniform uncut⟩
    · exact ⟨directory, .before nonempty last uniform uncut⟩
  rwa [divided.dirname_eq]

theorem exists_last_slash {path : Text} (member : '/' ∈ path) :
    ∃ front base, path = front ++ base ∧ front.getLast? = some '/' ∧ '/' ∉ base := by
  obtain ⟨before, after, equal, absent⟩ := List.eq_append_cons_of_mem (List.mem_reverse.mpr member)
  refine ⟨after.reverse ++ ['/'], before.reverse, ?_, by simp, by simpa using absent⟩
  simpa using congrArg List.reverse equal

theorem dirname_of_not_mem {path : Text} (uncut : '/' ∉ path) : dirname path = [] := by
  have cutAt := @dropWhile_reverse [] path (by simp) uncut
  rw [List.nil_append] at cutAt
  rw [dirname, cutAt]
  rfl

theorem directoryPart_iff {path directory : Text} :
    DirectoryPart path directory ↔ '/' ∈ path ∧ directory = dirname path := by
  constructor
  · intro divided
    refine ⟨?_, divided.dirname_eq.symm⟩
    cases divided with
    | @before _ slashes _ _ _ uniform _ =>
        have inRun : '/' ∈ slashes := List.mem_of_getLast? uniform.getLast?_eq
        exact List.mem_append_left _ (List.mem_append_right _ inRun)
    | slashes uniform _ => exact List.mem_append_left _ (List.mem_of_getLast? uniform.getLast?_eq)
  · rintro ⟨member, rfl⟩
    obtain ⟨front, base, rfl, ends, uncut⟩ := exists_last_slash member
    exact directoryPart_append ends uncut

theorem DirectoryPart.prefix_ne_nil {path directory : Text}
    (divided : DirectoryPart path directory) : directory <+: path ∧ directory ≠ [] := by
  cases divided with
  | before nonempty _ _ _ =>
      rw [List.append_assoc]
      exact ⟨List.prefix_append _ _, nonempty⟩
  | slashes uniform _ => exact ⟨List.prefix_append _ _, uniform.1⟩

theorem dirname_prefix (path : Text) : dirname path <+: path := by
  by_cases member : '/' ∈ path
  · exact (directoryPart_iff.mpr ⟨member, rfl⟩).prefix_ne_nil.1
  · rw [dirname_of_not_mem member]
    exact List.nil_prefix

theorem dirname_eq_nil_iff {path : Text} : dirname path = [] ↔ '/' ∉ path := by
  constructor
  · intro empty member
    exact (directoryPart_iff.mpr ⟨member, rfl⟩).prefix_ne_nil.2 empty
  · exact dirname_of_not_mem

/-! The path above. -/

theorem Slashes.components_append {slashes : Text} (uniform : Slashes slashes) {directory : PathText}
    (nonempty : directory ≠ []) :
    components (directory ++ PathText.ofText slashes) = components directory := by
  have silent : ∀ {rest : Text}, (∀ c ∈ rest, c = '/') → body rest = [] := by
    intro rest all
    induction rest with
    | nil => rfl
    | cons c rest ih =>
        obtain ⟨rfl, later⟩ := List.forall_mem_cons.mp all
        exact (body_append_slash [] rest).trans (ih later)
  obtain ⟨present, all⟩ := uniform
  cases slashes with
  | nil => exact absurd rfl present
  | cons c slashes =>
      obtain ⟨rfl, later⟩ := List.forall_mem_cons.mp all
      rw [PathText.ofText_cons, components_append_slash nonempty, silent later, List.append_nil]

theorem components_dirname {front base : Text} (ends : ∀ c ∈ front.getLast?, c = '/')
    (uncut : '/' ∉ base) : components (dirname (front ++ base)) = components front := by
  cases ending : front.getLast? with
  | none =>
      obtain rfl := List.getLast?_eq_none_iff.mp ending
      exact congrArg (fun path : Text => components path) (dirname_of_not_mem uncut)
  | some c =>
      obtain rfl : c = '/' := ends c ending
      rcases exists_slashes_at_end ending with
        uniform | ⟨directory, slashes, nonempty, last, uniform, rfl⟩
      · rw [(DirectoryPart.slashes uniform uncut).dirname_eq]
      · rw [(DirectoryPart.before nonempty last uniform uncut).dirname_eq, PathText.ofText_append,
          uniform.components_append (mt PathText.ofText_eq_nil_iff.mp nonempty)]

/-- Where the text after the last slash of a path is neither empty nor a single dot, there is a path
above, it has all components but the last, and the text that is cut off is the same path. -/
theorem dirname_same_parent {front base : Text} (ends : ∀ c ∈ front.getLast?, c = '/')
    (uncut : '/' ∉ base) (nonempty : base ≠ []) (notDot : base ≠ ['.']) :
    ∃ directory last, parent? (front ++ base : Text) = some directory ∧
      components (front ++ base : Text) = components directory ++ [last] ∧
      same directory (dirname (front ++ base)) = true := by
  obtain ⟨component, names⟩ : ∃ component, Names base component :=
    names_of (mt PathText.char_mem_ofText.mp uncut) (mt PathText.ofText_eq_nil_iff.mp nonempty)
      fun dot => notDot (PathText.ofText_inj.mp dot)
  have all : components (front ++ base : Text) = components front ++ [component] := by
    rw [PathText.ofText_append]
    refine names.components_append fun letter last => ?_
    rw [PathText.getLast?_ofText] at last
    obtain ⟨c, found, rfl⟩ := Option.map_eq_some_iff.mp last
    rw [ends c found]
  rcases parent?_cases (front ++ base : Text) with
    ⟨-, empty | root⟩ | ⟨directory, last, found, others⟩
  · rw [empty] at all
    simp at all
  · rw [root, ← List.nil_append [Component.root]] at all
    exact absurd (List.append_inj' all rfl).2 (by simpa using names.ne_root.symm)
  · refine ⟨directory, last, found, others, ?_⟩
    rw [same_iff, components_dirname ends uncut]
    exact (List.append_inj' (others.symm.trans all) rfl).1

/-- The two texts can differ: only one of them keeps slashes and dots at its end. -/
theorem dirname_same_parent_behind_dots :
    let front : Text := ".//opt/..//./".toList
    let base : Text := "run".toList
    parent? (front ++ base : Text) = some ".//opt/..".toList ∧
      dirname (front ++ base) = ".//opt/..//.".toList ∧
      same ".//opt/..".toList ".//opt/..//.".toList = true := by
  intro front base
  have ends : front.getLast? = some '/' := by decide
  have cutOff : dirname (front ++ base) = ".//opt/..//.".toList := by decide
  have above : parent? (front ++ base : Text) = some ".//opt/..".toList := by decide
  obtain ⟨directory, -, found, -, same⟩ :=
    @dirname_same_parent front base
      (fun c last => (Option.some.inj (ends.symm.trans last)).symm) (by decide) (by decide)
      (by decide)
  obtain rfl := Option.some.inj (found.symm.trans above)
  exact ⟨above, cutOff, cutOff ▸ same⟩

end Supervision.Path
