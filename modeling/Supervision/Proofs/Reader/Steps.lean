import Supervision.Proofs.Reader.Sequence
import Supervision.Reader.Step

/-!
What steps take off a text: each step takes just what it is defined by, however deep it is nested,
and what it leaves unread is the end of the text.
-/

namespace Supervision

open Text Reader

def EndsInk (text : Text) : Prop :=
  ∀ c ∈ text.getLast?, isBlank c = false

namespace Step

mutual

/-- What a step yields at the front of a text, what it takes up there, and what is left. -/
inductive Takes : Step → Yield → Text → Text → Prop
  | gap {blanks rest : Text} : Gap blanks → StartsInk rest → Takes .gap .mark blanks rest
  | word {found rest : Text} : Word found → StartsBlank rest → Takes .word (.text found) found rest
  | digits {found rest : Text} : Word found → (∀ c ∈ found, c.isDigit = true) → StartsBlank rest →
      Takes .digits (.text found) found rest
  | remainder {found blanks : Text} : found ≠ [] → EndsInk found →
      (∀ c ∈ blanks, isBlank c = true) → Takes .remainder (.text found) (found ++ blanks) []
  | atEnd {rest : Text} : (∀ c ∈ rest, isBlank c = true) → Takes .atEnd .mark [] rest
  | delimited {opening closing : Char} {found rest : Text} : found ≠ [] → closing ∉ found →
      Takes (.delimited opening closing) (.text found) (opening :: found ++ [closing]) rest
  | attempt {steps : List Step} {found : List Yield} {pieces : List Text} {rest : Text} :
      TakesAll steps found pieces rest → Takes (.attempt steps) (.items found) pieces.flatten rest
  | spaced {steps : List Step} {found : List Yield} {blanks : Text} {pieces : List Text}
      {rest : Text} : Gap blanks → StartsInk (pieces.flatten ++ rest) →
      TakesAll steps found pieces rest →
      Takes (.spaced steps) (.items found) (blanks ++ pieces.flatten) rest

inductive TakesAll : List Step → List Yield → List Text → Text → Prop
  | nil {rest : Text} : TakesAll [] [] [] rest
  | cons {step : Step} {steps : List Step} {found : Yield} {others : List Yield} {taken rest : Text}
      {pieces : List Text} : Takes step found taken (pieces.flatten ++ rest) →
      TakesAll steps others pieces rest →
      TakesAll (step :: steps) (found :: others) (taken :: pieces) rest

end

variable {text rest : Text}

theorem endsInk_trimEnd (text : Text) : EndsInk (trimEnd text) := by
  intro c member
  have stops := List.head?_dropWhile_not isBlank text.reverse
  rw [trimEnd, List.getLast?_reverse] at member
  rw [Option.mem_def.mp member] at stops
  simpa using stops

theorem trimEnd_eq_self (ends : EndsInk text) : trimEnd text = text := by
  have back : text.reverse.dropWhile isBlank = text.reverse :=
    (takeWhile_dropWhile_iff.mpr
      ⟨(List.nil_append text.reverse).symm, by simp, by simpa [EndsInk] using ends⟩).2
  rw [trimEnd, back, List.reverse_reverse]

theorem remainder_eq_some_iff {found : Text} :
    Reader.remainder text = some (found, rest) ↔
      found ≠ [] ∧ EndsInk found ∧ rest = [] ∧
        ∃ blanks, (∀ c ∈ blanks, isBlank c = true) ∧ text = found ++ blanks := by
  unfold Reader.remainder
  constructor
  · intro taken
    split at taken
    case h_1 => cases taken
    case h_2 nonempty =>
      obtain ⟨rfl, rfl⟩ := Prod.mk.inj (Option.some.inj taken)
      exact ⟨nonempty, endsInk_trimEnd text, rfl, exists_blanks_trimEnd text⟩
  · rintro ⟨nonempty, ends, rfl, blanks, uniform, rfl⟩
    rw [trimEnd_append_blanks uniform, trimEnd_eq_self ends]
    cases found with
    | nil => exact absurd rfl nonempty
    | cons c found => rfl

theorem digits_eq_some_iff {found : Text} :
    Reader.digits text = some (found, rest) ↔
      Word found ∧ (∀ c ∈ found, c.isDigit = true) ∧ StartsBlank rest ∧ text = found ++ rest := by
  rw [Reader.digits, wordWhere_eq_some_iff, List.all_eq_true]
  exact and_left_comm

theorem atEnd_eq_some_iff {mark : Unit} :
    Reader.atEnd text = some (mark, rest) ↔ (∀ c ∈ rest, isBlank c = true) ∧ text = rest := by
  rw [← allBlank_iff, Reader.atEnd]
  constructor
  · intro taken
    split at taken
    case isTrue blank =>
      obtain ⟨-, rfl⟩ := Prod.mk.inj (Option.some.inj taken)
      exact ⟨blank, rfl⟩
    case isFalse => cases taken
  · rintro ⟨blank, rfl⟩
    rw [if_pos blank]

mutual

theorem read_eq_some_iff : ∀ (step : Step) (text rest : Text) (found : Yield),
    read step text = some (found, rest) ↔ ∃ taken, Takes step found taken rest ∧ text = taken ++ rest
  | .gap, text, rest, found => by
      simp only [read, bind_eq_some_iff, pure_eq_some_iff]
      constructor
      · rintro ⟨_, middle, taken, rfl, rfl⟩
        obtain ⟨blanks, nonempty, uniform, equal, starts⟩ := gap_eq_some_iff.mp taken
        exact ⟨blanks, .gap ⟨nonempty, uniform⟩ starts, equal⟩
      · rintro ⟨blanks, takes, equal⟩
        cases takes with
        | gap gapped starts =>
            have taken := gap_eq_some_iff.mpr ⟨blanks, gapped.1, gapped.2, equal, starts⟩
            exact ⟨(), rest, taken, rfl, rfl⟩
  | .word, text, rest, found => by
      simp only [read, bind_eq_some_iff, pure_eq_some_iff]
      constructor
      · rintro ⟨word, middle, taken, rfl, rfl⟩
        obtain ⟨nonempty, ink, equal, stops⟩ := word_eq_some_iff.mp taken
        exact ⟨word, .word ⟨nonempty, ink⟩ stops, equal⟩
      · rintro ⟨word, takes, equal⟩
        cases takes with
        | word ink stops =>
            exact ⟨word, rest, word_eq_some_iff.mpr ⟨ink.1, ink.2, equal, stops⟩, rfl, rfl⟩
  | .digits, text, rest, found => by
      simp only [read, bind_eq_some_iff, pure_eq_some_iff, digits_eq_some_iff]
      constructor
      · rintro ⟨word, middle, ⟨ink, digits, stops, equal⟩, rfl, rfl⟩
        exact ⟨word, .digits ink digits stops, equal⟩
      · rintro ⟨word, takes, equal⟩
        cases takes with
        | digits ink digits stops => exact ⟨word, rest, ⟨ink, digits, stops, equal⟩, rfl, rfl⟩
  | .remainder, text, rest, found => by
      simp only [read, bind_eq_some_iff, pure_eq_some_iff, remainder_eq_some_iff]
      constructor
      · rintro ⟨all, middle, ⟨nonempty, ends, rfl, blanks, uniform, rfl⟩, rfl, rfl⟩
        exact ⟨all ++ blanks, .remainder nonempty ends uniform, by simp⟩
      · rintro ⟨taken, takes, equal⟩
        cases takes with
        | remainder nonempty ends uniform =>
            rw [List.append_nil] at equal
            exact ⟨_, [], ⟨nonempty, ends, rfl, _, uniform, equal⟩, rfl, rfl⟩
  | .atEnd, text, rest, found => by
      simp only [read, bind_eq_some_iff, pure_eq_some_iff, atEnd_eq_some_iff]
      constructor
      · rintro ⟨_, middle, ⟨blank, rfl⟩, rfl, rfl⟩
        exact ⟨[], .atEnd blank, rfl⟩
      · rintro ⟨taken, takes, equal⟩
        cases takes with
        | atEnd blank => exact ⟨(), rest, ⟨blank, equal⟩, rfl, rfl⟩
  | .delimited opening closing, text, rest, found => by
      simp only [read, bind_eq_some_iff, pure_eq_some_iff, delimited_eq_some_iff]
      constructor
      · rintro ⟨content, middle, ⟨nonempty, unclosed, rfl⟩, rfl, rfl⟩
        exact ⟨_, .delimited nonempty unclosed, by simp⟩
      · rintro ⟨taken, takes, equal⟩
        cases takes with
        | delimited nonempty unclosed =>
            exact ⟨_, rest, ⟨nonempty, unclosed, by simpa using equal⟩, rfl, rfl⟩
  | .attempt steps, text, rest, found => by
      simp only [read, bind_eq_some_iff, pure_eq_some_iff, readAll_eq_some_iff steps]
      constructor
      · rintro ⟨yields, middle, ⟨pieces, all, equal⟩, rfl, rfl⟩
        exact ⟨pieces.flatten, .attempt all, equal⟩
      · rintro ⟨taken, takes, equal⟩
        cases takes with
        | attempt all => exact ⟨_, rest, ⟨_, all, equal⟩, rfl, rfl⟩
  | .spaced steps, text, rest, found => by
      simp only [read, bind_eq_some_iff, pure_eq_some_iff, readAll_eq_some_iff steps]
      constructor
      · rintro ⟨_, middle, gapTaken, yields, _, ⟨pieces, all, rfl⟩, rfl, rfl⟩
        obtain ⟨blanks, nonempty, uniform, rfl, starts⟩ := gap_eq_some_iff.mp gapTaken
        exact ⟨blanks ++ pieces.flatten, .spaced ⟨nonempty, uniform⟩ starts all, by simp⟩
      · rintro ⟨taken, takes, equal⟩
        cases takes with
        | spaced gapped starts all =>
            rw [List.append_assoc] at equal
            have taken := gap_eq_some_iff.mpr ⟨_, gapped.1, gapped.2, equal, starts⟩
            exact ⟨(), _, taken, _, rest, ⟨_, all, rfl⟩, rfl, rfl⟩

theorem readAll_eq_some_iff : ∀ (steps : List Step) (text rest : Text) (found : List Yield),
    readAll steps text = some (found, rest) ↔
      ∃ pieces, TakesAll steps found pieces rest ∧ text = pieces.flatten ++ rest
  | [], text, rest, found => by
      simp only [readAll, pure_eq_some_iff]
      constructor
      · rintro ⟨rfl, rfl⟩
        exact ⟨[], .nil, rfl⟩
      · rintro ⟨pieces, takes, equal⟩
        cases takes with
        | nil => exact ⟨rfl, equal⟩
  | step :: steps, text, rest, found => by
      simp only [readAll, bind_eq_some_iff, pure_eq_some_iff, read_eq_some_iff step,
        readAll_eq_some_iff steps]
      constructor
      · rintro ⟨first, _, ⟨taken, here, rfl⟩, others, _, ⟨pieces, later, rfl⟩, rfl, rfl⟩
        exact ⟨taken :: pieces, .cons here later, by simp⟩
      · rintro ⟨pieces, takes, equal⟩
        cases takes with
        | cons here later =>
            rw [List.flatten_cons, List.append_assoc] at equal
            exact ⟨_, _, ⟨_, here, equal⟩, _, rest, ⟨_, later, rfl⟩, rfl, rfl⟩

end

end Step

end Supervision
