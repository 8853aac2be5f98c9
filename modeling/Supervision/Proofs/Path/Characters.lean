import Supervision.Proofs.Path.Components
import Supervision.Proofs.Path.Letter

/-!
Which paths are texts: the functions on paths add no letters but slashes and dots, which are
characters.
-/

namespace Supervision.Path

open PathText

variable {base path file directory : PathText}

theorem isText_of_subset {left right : PathText} (subset : left ⊆ right) (text : IsText right) :
    IsText left :=
  isText_iff_forall.mpr fun letter member => isText_iff_forall.mp text letter (subset member)

theorem isText_anchor (path : PathText) : IsText (anchor path) := by
  rcases anchor_cases path with ⟨_, -, anchorIs⟩ | ⟨_, -, -, anchorIs⟩ | anchorIs <;> rw [anchorIs]
  · exact isText_ofText ['/']
  · exact isText_ofText ['.']
  · exact isText_ofText []

theorem dropSilent_subset (path : PathText) : dropSilent path ⊆ path := by
  fun_induction dropSilent path with
  | case1 rest ih => exact List.subset_cons_of_subset _ ih
  | case2 rest ih => exact List.subset_cons_of_subset _ (List.subset_cons_of_subset _ ih)
  | case3 => exact List.nil_subset _
  | case4 => exact List.Subset.refl _

theorem isText_parent? (text : IsText path) (found : parent? path = some directory) :
    IsText directory := by
  have silent : ∀ {letters : PathText}, letters ⊆ path.reverse →
      IsText (dropSilent letters).reverse := by
    intro letters inside
    refine isText_of_subset (fun letter member => ?_) text
    exact List.mem_reverse.mp (inside (dropSilent_subset letters (List.mem_reverse.mp member)))
  have behind : dropSilent (path.drop (anchor path).length).reverse ⊆ path.reverse := fun _ member =>
    List.mem_reverse.mpr (List.mem_of_mem_drop
      (List.mem_reverse.mp (dropSilent_subset _ member)))
  rw [parent?] at found
  cases left : dropSilent (path.drop (anchor path).length).reverse with
  | nil =>
      simp only [left] at found
      split at found
      · obtain rfl := Option.some.inj found
        exact isText_ofText []
      · cases found
  | cons letter rest =>
      simp only [left] at found
      obtain rfl := Option.some.inj found
      rw [left] at behind
      exact isText_append_iff.mpr ⟨isText_anchor path,
        silent fun _ member => behind ((List.dropWhile_sublist _).subset member)⟩

theorem isText_containing (text : IsText file) : IsText (containing file) := by
  unfold containing
  split
  · exact isText_ofText ['.']
  · exact isText_ofText ['.']
  · rename_i directory _ found
    exact isText_parent? text found

/-- An absolute path replaces the base, and any other follows it. -/
theorem isText_join_iff {text : Text} :
    IsText (join base text) ↔ text.head? = some '/' ∨ IsText base := by
  have head : isAbsolute text = true ↔ text.head? = some '/' := by
    cases text <;> simp [isAbsolute]
  have behind : IsText (.char '/' :: ofText text) := isText_ofText ('/' :: text)
  unfold join
  by_cases absolute : text.head? = some '/'
  · simp only [head.mpr absolute, absolute, isText_ofText, if_true, true_or]
  · rw [if_neg (mt head.mp absolute)]
    simp only [absolute, false_or]
    split <;> simp only [isText_append_iff, isText_ofText, behind, and_true]

end Supervision.Path
