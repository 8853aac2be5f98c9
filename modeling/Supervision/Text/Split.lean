import Supervision.Text.Basic

/-!
What the cutting functions do to a text: a run is the longest beginning of its kind, a cut is made
at the first mark, and pieces are taken apart where the cuts are.
-/

namespace Supervision.Text

theorem takeWhile_dropWhile_iff {α : Type} {kind : α → Bool} {text found rest : List α} :
    text.takeWhile kind = found ∧ text.dropWhile kind = rest ↔
      text = found ++ rest ∧ (∀ c ∈ found, kind c = true) ∧ ∀ c ∈ rest.head?, kind c = false := by
  constructor
  · rintro ⟨rfl, rfl⟩
    refine ⟨List.takeWhile_append_dropWhile.symm, ?_, ?_⟩
    · intro c member
      exact List.all_eq_true.mp (List.all_takeWhile (p := kind) (l := text)) c member
    · intro c member
      have head := List.head?_dropWhile_not kind text
      rw [Option.mem_def.mp member] at head
      simpa using head
  · rintro ⟨rfl, uniform, stops⟩
    rw [List.takeWhile_append_of_pos uniform, List.dropWhile_append_of_pos uniform]
    cases rest with
    | nil => simp
    | cons c rest =>
        have other : kind c = false := stops c rfl
        simp [other]

theorem splitOnce_eq_some_iff {mark : Char} {text before after : Text} :
    splitOnce mark text = some (before, after) ↔
      mark ∉ before ∧ text = before ++ mark :: after := by
  induction text generalizing before with
  | nil => simp [splitOnce]
  | cons c text ih =>
      by_cases same : c = mark
      · subst same
        constructor
        · intro cutHere
          simp only [splitOnce, ↓reduceIte, Option.some.injEq, Prod.mk.injEq] at cutHere
          obtain ⟨rfl, rfl⟩ := cutHere
          exact ⟨List.not_mem_nil, rfl⟩
        · rintro ⟨absent, equal⟩
          cases before with
          | nil =>
              obtain ⟨-, rfl⟩ := List.cons.inj equal
              simp [splitOnce]
          | cons d before =>
              obtain ⟨rfl, -⟩ := List.cons.inj equal
              exact absurd List.mem_cons_self absent
      · simp only [splitOnce, same, ↓reduceIte, Option.map_eq_some_iff, Prod.exists]
        constructor
        · rintro ⟨first, second, cutLater, equal⟩
          obtain ⟨rfl, rfl⟩ := Prod.mk.inj equal
          obtain ⟨absent, rfl⟩ := ih.mp cutLater
          refine ⟨?_, rfl⟩
          intro member
          rcases List.mem_cons.mp member with reversed | later
          · exact same reversed.symm
          · exact absent later
        · rintro ⟨absent, equal⟩
          cases before with
          | nil =>
              obtain ⟨rfl, -⟩ := List.cons.inj equal
              exact absurd rfl same
          | cons d before =>
              obtain ⟨rfl, later⟩ := List.cons.inj equal
              have rest := fun member => absent (List.mem_cons_of_mem _ member)
              exact ⟨before, after, ih.mpr ⟨rest, later⟩, rfl⟩

theorem splitOnce_eq_none_iff {mark : Char} {text : Text} :
    splitOnce mark text = none ↔ mark ∉ text := by
  constructor
  · intro uncut member
    obtain ⟨before, after, equal, absent⟩ := List.eq_append_cons_of_mem member
    rw [splitOnce_eq_some_iff.mpr ⟨absent, equal⟩] at uncut
    cases uncut
  · intro absent
    rcases cut : splitOnce mark text with _ | ⟨before, after⟩
    · rfl
    · obtain ⟨-, rfl⟩ := splitOnce_eq_some_iff.mp cut
      exact absurd (by simp) absent

theorem splitWhere_eq_splitOnP {α : Type} (cut : α → Bool) (text : List α) :
    splitWhere cut text = text.splitOnP cut := by
  induction text with
  | nil => rfl
  | cons c text ih =>
      rw [splitWhere, List.splitOnP_cons_eq_if_modifyHead, ih]
      cases pieces : text.splitOnP cut with
      | nil => exact absurd pieces (List.splitOnP_ne_nil cut text)
      | cons piece pieces => rfl

theorem splitWhere_eq_splitOn (mark : Char) (text : Text) :
    splitWhere (· = mark) text = text.splitOn mark :=
  splitWhere_eq_splitOnP _ text

theorem splitWhere_ne_nil {α : Type} (cut : α → Bool) (text : List α) : splitWhere cut text ≠ [] := by
  rw [splitWhere_eq_splitOnP]
  exact List.splitOnP_ne_nil cut text

theorem splitWhere_append {α : Type} {cut : α → Bool} {c : α} (cuts : cut c = true)
    (before after : List α) :
    splitWhere cut (before ++ c :: after) = splitWhere cut before ++ splitWhere cut after := by
  simp only [splitWhere_eq_splitOnP]
  exact List.splitOnP_append_cons before after cuts

theorem length_splitWhere {α : Type} (cut : α → Bool) (text : List α) :
    (splitWhere cut text).length = text.countP cut + 1 := by
  induction text with
  | nil => rfl
  | cons c text ih =>
      rw [splitWhere, List.countP_cons]
      cases pieces : splitWhere cut text with
      | nil => exact absurd pieces (splitWhere_ne_nil cut text)
      | cons piece pieces =>
          rw [pieces] at ih
          split <;> simp_all [extendFirst]

theorem splitWhere_eq_singleton {α : Type} {cut : α → Bool} {text : List α}
    (uncut : ∀ c ∈ text, cut c = false) : splitWhere cut text = [text] := by
  rw [splitWhere_eq_splitOnP]
  exact List.splitOnP_eq_singleton uncut

end Supervision.Text
