import Mathlib.Data.List.Basic
import Supervision.Text.Split

/-!
Pieces and runs of a text between the characters that cut it. The runs are the maximal ones, and a
list of runs that is joined by a cut falls apart into the same runs again.
-/

namespace Supervision.Text

variable {cut : Char → Bool}

/-! Pieces between cuts. -/

theorem mem_extendFirst {c d : Char} {piece : Text} {pieces : List Text}
    (found : piece ∈ extendFirst c pieces) (member : d ∈ piece) :
    d = c ∨ ∃ other ∈ pieces, d ∈ other := by
  cases pieces with
  | nil =>
      obtain rfl : piece = [c] := by simpa [extendFirst] using found
      exact Or.inl (by simpa using member)
  | cons first pieces =>
      simp only [extendFirst, List.mem_cons] at found
      rcases found with rfl | later
      · rcases List.mem_cons.mp member with same | inside
        · exact Or.inl same
        · exact Or.inr ⟨first, List.mem_cons_self, inside⟩
      · exact Or.inr ⟨piece, List.mem_cons_of_mem _ later, member⟩

theorem mem_splitWhere {text piece : Text} {c : Char} (found : piece ∈ splitWhere cut text)
    (member : c ∈ piece) : c ∈ text ∧ cut c = false := by
  have somePiece : ∃ piece ∈ splitWhere cut text, c ∈ piece := ⟨piece, found, member⟩
  clear found member
  induction text with
  | nil => simp [splitWhere] at somePiece
  | cons d text ih =>
      obtain ⟨piece, found, member⟩ := somePiece
      simp only [splitWhere] at found
      split at found
      · rcases List.mem_cons.mp found with rfl | later
        · simp at member
        · obtain ⟨inside, other⟩ := ih ⟨piece, later, member⟩
          exact ⟨List.mem_cons_of_mem _ inside, other⟩
      · rename_i notCut
        rcases mem_extendFirst found member with rfl | later
        · exact ⟨List.mem_cons_self, Bool.eq_false_iff.mpr notCut⟩
        · obtain ⟨inside, other⟩ := ih later
          exact ⟨List.mem_cons_of_mem _ inside, other⟩

theorem suffix_joinWith_concat (separator : Text) (front : List Text) (last : Text) :
    last <:+ joinWith separator (front ++ [last]) := by
  induction front with
  | nil => exact ⟨[], (List.intercalate_singleton ..).symm⟩
  | cons piece front ih =>
      rw [List.cons_append, joinWith, List.intercalate_cons_of_ne_nil (by simp), ← joinWith]
      exact ih.trans (List.suffix_append _ _)

/-! Runs. -/

theorem runs_append {c : Char} (cuts : cut c = true) (before after : Text) :
    runs cut (before ++ c :: after) = runs cut before ++ runs cut after := by
  simp only [runs, splitWhere_append cuts, List.filter_append]

theorem runs_cons_cut {c : Char} (cuts : cut c = true) (text : Text) :
    runs cut (c :: text) = runs cut text := by
  rw [← List.nil_append (c :: text), runs_append cuts]
  rfl

theorem runs_cuts_append {between : Text} (uniform : ∀ c ∈ between, cut c = true)
    (rest : Text) : runs cut (between ++ rest) = runs cut rest := by
  induction between with
  | nil => rfl
  | cons c between ih =>
      rw [List.cons_append, runs_cons_cut (uniform c List.mem_cons_self)]
      exact ih fun d member => uniform d (List.mem_cons_of_mem _ member)

theorem runs_append_cuts {between : Text} (uniform : ∀ c ∈ between, cut c = true)
    (text : Text) : runs cut (text ++ between) = runs cut text := by
  cases between with
  | nil => rw [List.append_nil]
  | cons c between =>
      have rest : runs cut (between ++ []) = runs cut [] :=
        runs_cuts_append (fun d member => uniform d (List.mem_cons_of_mem _ member)) []
      rw [List.append_nil] at rest
      rw [runs_append (uniform c List.mem_cons_self), rest]
      exact List.append_nil _

theorem mem_runs {text run : Text} (found : run ∈ runs cut text) :
    run ≠ [] ∧ ∀ c ∈ run, c ∈ text ∧ cut c = false := by
  obtain ⟨piece, nonempty⟩ := List.mem_filter.mp found
  exact ⟨by simpa using nonempty, fun c member => mem_splitWhere piece member⟩

theorem runs_run_append {run rest : Text} (nonempty : run ≠ []) (uncut : ∀ c ∈ run, cut c = false)
    (stops : ∀ c ∈ rest.head?, cut c = true) : runs cut (run ++ rest) = run :: runs cut rest := by
  have single : runs cut run = [run] := by simp [runs, splitWhere_eq_singleton uncut, nonempty]
  cases rest with
  | nil =>
      rw [List.append_nil, single]
      rfl
  | cons c rest =>
      have cuts : cut c = true := stops c rfl
      rw [runs_append cuts, runs_cons_cut cuts, single]
      rfl

theorem cuts_or_exists_run (cut : Char → Bool) (text : Text) :
    (∀ c ∈ text, cut c = true) ∨ ∃ between run rest, (∀ c ∈ between, cut c = true) ∧ run ≠ [] ∧
      (∀ c ∈ run, cut c = false) ∧ (∀ c ∈ rest.head?, cut c = true) ∧
      text = between ++ run ++ rest := by
  obtain ⟨front, uniform, starts⟩ := takeWhile_dropWhile_iff.mp ⟨rfl, (rfl : text.dropWhile cut = _)⟩
  cases tail : text.dropWhile cut with
  | nil =>
      rw [tail, List.append_nil] at front
      rw [← front] at uniform
      exact Or.inl uniform
  | cons c others =>
      rw [tail] at front starts
      have here : cut c = false := starts c rfl
      obtain ⟨back, uncut, stops⟩ := takeWhile_dropWhile_iff.mp
        ⟨rfl, (rfl : (c :: others).dropWhile (!cut ·) = _)⟩
      refine Or.inr ⟨_, _, _, uniform, ?_, by simpa using uncut, by simpa using stops, ?_⟩
      · simp [here]
      · rw [List.append_assoc, ← back]
        exact front

theorem runs_eq_nil_iff {text : Text} : runs cut text = [] ↔ ∀ c ∈ text, cut c = true := by
  constructor
  · intro none
    rcases cuts_or_exists_run cut text with
      uniform | ⟨between, run, rest, uniform, nonempty, uncut, stops, rfl⟩
    · exact uniform
    · rw [List.append_assoc, runs_cuts_append uniform, runs_run_append nonempty uncut stops] at none
      cases none
  · intro uniform
    have all := runs_cuts_append uniform []
    rwa [List.append_nil] at all

/-- The maximal runs of a text, told from its front: cuts alone stand before the first run, and the
first run goes on to the end of the text or to the next cut. -/
inductive Runs (cut : Char → Bool) : Text → List Text → Prop
  | nil {between : Text} : (∀ c ∈ between, cut c = true) → Runs cut between []
  | cons {between run rest : Text} {others : List Text} : (∀ c ∈ between, cut c = true) →
      run ≠ [] → (∀ c ∈ run, cut c = false) → (∀ c ∈ rest.head?, cut c = true) →
      Runs cut rest others → Runs cut (between ++ run ++ rest) (run :: others)

theorem runs_spec (cut : Char → Bool) (text : Text) : Runs cut text (runs cut text) := by
  -- What is left after the first run is shorter.
  generalize measured : text.length = size
  induction size using Nat.strongRecOn generalizing text with
  | ind size ih =>
      rcases cuts_or_exists_run cut text with
        uniform | ⟨between, run, rest, uniform, nonempty, uncut, stops, rfl⟩
      · rw [runs_eq_nil_iff.mpr uniform]
        exact .nil uniform
      · have shorter : rest.length < size := by
          have someRun := List.length_pos_iff.mpr nonempty
          simp only [List.length_append] at measured
          omega
        rw [List.append_assoc, runs_cuts_append uniform, runs_run_append nonempty uncut stops,
          ← List.append_assoc]
        exact .cons uniform nonempty uncut stops (ih rest.length shorter rest rfl)

theorem runs_eq_iff {text : Text} {found : List Text} : runs cut text = found ↔ Runs cut text found := by
  constructor
  · rintro rfl
    exact runs_spec cut text
  · intro told
    induction told with
    | nil uniform => exact runs_eq_nil_iff.mpr uniform
    | cons uniform nonempty uncut stops _ ih =>
        rw [List.append_assoc, runs_cuts_append uniform, runs_run_append nonempty uncut stops, ih]

theorem runs_joinWith {mark : Char} (cuts : cut mark = true) {pieces : List Text}
    (whole : ∀ piece ∈ pieces, piece ≠ [] ∧ ∀ c ∈ piece, cut c = false) :
    runs cut (joinWith [mark] pieces) = pieces := by
  induction pieces with
  | nil => rfl
  | cons piece pieces ih =>
      obtain ⟨⟨nonempty, uncut⟩, later⟩ := List.forall_mem_cons.mp whole
      have single : runs cut (piece ++ []) = [piece] := runs_run_append nonempty uncut (by simp)
      rw [List.append_nil] at single
      cases pieces with
      | nil =>
          rw [joinWith, List.intercalate_singleton]
          exact single
      | cons second pieces =>
          rw [joinWith, List.intercalate_cons_cons, List.append_assoc, List.singleton_append,
            runs_append cuts, ← joinWith, ih later, single]
          rfl

end Supervision.Text
