import Supervision.Proofs.Text.Words
import Supervision.Reader.Lemmas
import Supervision.Record.Group
import Supervision.Record.Program

/-!
Readers one after the other: what a sequence of fields takes, and that what is left unread is
always the end of the text.
-/

namespace Supervision.Reader

open Text

variable {α β : Type}

theorem bind_eq_some_iff {reader : Reader α} {next : α → Reader β} {text rest : Text} {found : β} :
    (reader >>= next) text = some (found, rest) ↔
      ∃ first middle, reader text = some (first, middle) ∧
        next first middle = some (found, rest) := by
  change (reader text).bind (fun taken => next taken.1 taken.2) = some (found, rest) ↔ _
  simp only [Option.bind_eq_some_iff, Prod.exists]

theorem pure_eq_some_iff {value found : α} {text rest : Text} :
    (pure value : Reader α) text = some (found, rest) ↔ value = found ∧ text = rest := by
  change some (value, text) = some (found, rest) ↔ _
  simp only [Option.some.injEq, Prod.mk.injEq]

theorem spaced_eq_some_iff {field : Reader α} {text rest : Text} {found : α} :
    spaced field text = some (found, rest) ↔
      ∃ blanks middle, Gap blanks ∧ text = blanks ++ middle ∧ StartsInk middle ∧
        field middle = some (found, rest) := by
  rw [spaced, bind_eq_some_iff]
  constructor
  · rintro ⟨_, middle, gapTaken, fieldTaken⟩
    obtain ⟨blanks, nonempty, uniform, equal, starts⟩ := gap_eq_some_iff.mp gapTaken
    exact ⟨blanks, middle, ⟨nonempty, uniform⟩, equal, starts, fieldTaken⟩
  · rintro ⟨blanks, middle, ⟨nonempty, uniform⟩, equal, starts, fieldTaken⟩
    exact ⟨(), middle, gap_eq_some_iff.mpr ⟨blanks, nonempty, uniform, equal, starts⟩, fieldTaken⟩

theorem maybe_eq_some_iff {field : Reader α} {text rest : Text} {found : Option α} :
    maybe field text = some (found, rest) ↔
      (∃ value, found = some value ∧ field text = some (value, rest)) ∨
        found = none ∧ field text = none ∧ rest = text := by
  unfold maybe
  cases field text with
  | none => simp [eq_comm]
  | some taken =>
      obtain ⟨value, after⟩ := taken
      simp [eq_comm]

theorem wordWhere_eq_some_iff {accepts : Text → Bool} {text found rest : Text} :
    wordWhere accepts text = some (found, rest) ↔
      accepts found = true ∧ Word found ∧ StartsBlank rest ∧ text = found ++ rest := by
  simp only [wordWhere, Option.filter_eq_some_iff, word_eq_some_iff]
  constructor
  · rintro ⟨⟨nonempty, uniform, equal, stops⟩, accepted⟩
    exact ⟨accepted, ⟨nonempty, uniform⟩, stops, equal⟩
  · rintro ⟨accepted, ⟨nonempty, uniform⟩, stops, equal⟩
    exact ⟨⟨nonempty, uniform, equal, stops⟩, accepted⟩

/-! Fields written down are read back. -/

theorem startsInk_word_append {word : Text} (ink : Word word) (rest : Text) :
    StartsInk (word ++ rest) := by
  obtain ⟨nonempty, uniform⟩ := ink
  cases word with
  | nil => exact absurd rfl nonempty
  | cons d word =>
      intro c member
      obtain rfl : d = c := by simpa using member
      exact isInk_eq_true.mp (uniform d List.mem_cons_self)

theorem gap_append {blanks rest : Text} (gapped : Gap blanks) (starts : StartsInk rest) :
    gap (blanks ++ rest) = some ((), rest) :=
  gap_eq_some_iff.mpr ⟨blanks, gapped.1, gapped.2, rfl, starts⟩

theorem word_append {found rest : Text} (ink : Word found) (stops : StartsBlank rest) :
    word (found ++ rest) = some (found, rest) :=
  word_eq_some_iff.mpr ⟨ink.1, ink.2, rfl, stops⟩

theorem digits_append {found rest : Text} (ink : Word found) (uniform : ∀ c ∈ found, c.isDigit = true)
    (stops : StartsBlank rest) : digits (found ++ rest) = some (found, rest) :=
  wordWhere_eq_some_iff.mpr ⟨List.all_eq_true.mpr uniform, ink, stops, rfl⟩

theorem spaced_append {field : Reader α} {blanks rest : Text} (gapped : Gap blanks)
    (starts : StartsInk rest) : spaced field (blanks ++ rest) = field rest := by
  change (gap (blanks ++ rest)).bind (fun taken => field taken.2) = field rest
  rw [gap_append gapped starts, Option.bind_some]

/-! What is left unread. -/

/-- What a reader leaves unread is the end of the text it was given. -/
def Conserves (reader : Reader α) : Prop :=
  ∀ text found rest, reader text = some (found, rest) → rest <:+ text

theorem Conserves.bind {reader : Reader α} {next : α → Reader β} (first : Conserves reader)
    (second : ∀ found, Conserves (next found)) : Conserves (reader >>= next) := by
  intro text found rest taken
  obtain ⟨value, middle, firstTaken, secondTaken⟩ := bind_eq_some_iff.mp taken
  exact (second value middle found rest secondTaken).trans (first text value middle firstTaken)

theorem conserves_pure (value : α) : Conserves (pure value : Reader α) := by
  intro text found rest taken
  obtain ⟨-, rfl⟩ := pure_eq_some_iff.mp taken
  exact List.suffix_refl text

theorem conserves_gap : Conserves gap := by
  intro text found rest taken
  obtain ⟨blanks, -, -, rfl, -⟩ := gap_eq_some_iff.mp taken
  exact List.suffix_append blanks rest

theorem conserves_wordWhere (accepts : Text → Bool) : Conserves (wordWhere accepts) := by
  intro text found rest taken
  obtain ⟨-, -, -, rfl⟩ := wordWhere_eq_some_iff.mp taken
  exact List.suffix_append found rest

theorem conserves_word : Conserves word := by
  intro text found rest taken
  obtain ⟨-, -, rfl, -⟩ := word_eq_some_iff.mp taken
  exact List.suffix_append found rest

theorem conserves_delimited (opening closing : Char) : Conserves (delimited opening closing) := by
  intro text found rest taken
  obtain ⟨-, -, rfl⟩ := delimited_eq_some_iff.mp taken
  exact ⟨opening :: found ++ [closing], by simp⟩

theorem conserves_spaced {field : Reader α} (inner : Conserves field) : Conserves (spaced field) :=
  conserves_gap.bind fun _ => inner

theorem conserves_maybe {field : Reader α} (inner : Conserves field) : Conserves (maybe field) := by
  intro text found rest taken
  rcases maybe_eq_some_iff.mp taken with ⟨value, -, fieldTaken⟩ | ⟨-, -, rfl⟩
  · exact inner text value rest fieldTaken
  · exact List.suffix_refl rest

theorem conserves_settings : Conserves settings := by
  intro text found rest taken
  unfold settings at taken
  split at taken
  · rename_i block after blockTaken
    obtain ⟨-, rfl⟩ := Prod.mk.inj (Option.some.inj taken)
    exact conserves_spaced (conserves_delimited '(' ')') _ _ _ blockTaken
  · obtain ⟨-, rfl⟩ := Prod.mk.inj (Option.some.inj taken)
    exact List.suffix_refl text

theorem conserves_arguments : Conserves arguments :=
  conserves_maybe (conserves_spaced (conserves_delimited '[' ']'))

end Supervision.Reader
