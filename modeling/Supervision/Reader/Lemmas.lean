import Supervision.Reader.Basic
import Supervision.Text.Split

/-!
Each reader takes exactly the text it yields, together with the marks or blanks it is defined by.
-/

namespace Supervision.Reader

open Text

def StartsInk (text : Text) : Prop :=
  ∀ c ∈ text.head?, isBlank c = false

theorem gap_eq_some_iff {text rest : Text} :
    gap text = some ((), rest) ↔
      ∃ blanks, blanks ≠ [] ∧ (∀ c ∈ blanks, isBlank c = true) ∧ text = blanks ++ rest ∧
        StartsInk rest := by
  cases text with
  | nil =>
      constructor
      · intro found
        simp [gap] at found
      · rintro ⟨blanks, nonempty, -, equal, -⟩
        exact absurd (List.append_eq_nil_iff.mp equal.symm).1 nonempty
  | cons c text =>
      constructor
      · intro found
        simp only [gap] at found
        split at found
        · rename_i blank
          have dropped : text.dropWhile isBlank = rest := by simpa using found
          obtain ⟨equal, uniform, stops⟩ := takeWhile_dropWhile_iff.mp ⟨rfl, dropped⟩
          refine ⟨c :: text.takeWhile isBlank, by simp, ?_, ?_, stops⟩
          · intro d member
            rcases List.mem_cons.mp member with same | later
            · simpa [same] using blank
            · exact uniform d later
          · rw [List.cons_append, ← equal]
        · simp at found
      · rintro ⟨blanks, nonempty, uniform, equal, stops⟩
        cases blanks with
        | nil => exact absurd rfl nonempty
        | cons d blanks =>
            obtain ⟨rfl, later⟩ := List.cons.inj equal
            have blank : isBlank c = true := uniform c List.mem_cons_self
            have taken := takeWhile_dropWhile_iff.mpr
              ⟨later, fun e member => uniform e (List.mem_cons_of_mem _ member), stops⟩
            simp [gap, blank, taken.2]

theorem word_eq_some_iff {text found rest : Text} :
    word text = some (found, rest) ↔
      found ≠ [] ∧ (∀ c ∈ found, isInk c = true) ∧ text = found ++ rest ∧
        ∀ c ∈ rest.head?, isInk c = false := by
  constructor
  · intro taken
    unfold word at taken
    split at taken
    · simp at taken
    · rename_i other nonempty
      simp only [Option.some.injEq, Prod.mk.injEq] at taken
      obtain ⟨equal, uniform, stops⟩ := takeWhile_dropWhile_iff.mp taken
      refine ⟨?_, uniform, equal, stops⟩
      rintro rfl
      exact nonempty taken.1
  · rintro ⟨nonempty, uniform, equal, stops⟩
    obtain ⟨taken, dropped⟩ := takeWhile_dropWhile_iff.mpr ⟨equal, uniform, stops⟩
    unfold word
    rw [taken, dropped]
    cases found with
    | nil => exact absurd rfl nonempty
    | cons c found => rfl

theorem delimited_eq_some_iff {opening closing : Char} {text found rest : Text} :
    delimited opening closing text = some (found, rest) ↔
      found ≠ [] ∧ closing ∉ found ∧ text = opening :: found ++ closing :: rest := by
  cases text with
  | nil => simp [delimited]
  | cons c text =>
      by_cases same : c = opening
      · subst same
        simp only [delimited, ↓reduceIte, Option.filter_eq_some_iff, splitOnce_eq_some_iff,
          List.cons_append, List.cons.injEq, true_and, Bool.not_eq_true', List.isEmpty_eq_false_iff]
        exact ⟨fun ⟨⟨absent, equal⟩, nonempty⟩ => ⟨nonempty, absent, equal⟩,
          fun ⟨nonempty, absent, equal⟩ => ⟨⟨absent, equal⟩, nonempty⟩⟩
      · simp [delimited, same]

end Supervision.Reader
