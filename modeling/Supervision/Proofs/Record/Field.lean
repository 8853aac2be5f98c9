import Supervision.Proofs.Reader.Sequence

/-!
The optional fields of a line, as they are written: text between marks, and words at the end.
Reading such a field takes what is written there, and nothing when it is not there.
-/

namespace Supervision.RecordField

open Text Reader

def Enclosed (closing : Char) (content : Text) : Prop :=
  content ≠ [] ∧ closing ∉ content

/-- A closed pair of marks stands at the front, with something in it. -/
def Opens (opening closing : Char) (text : Text) : Prop :=
  ∃ content rest, Enclosed closing content ∧ text = opening :: content ++ closing :: rest

inductive Bracketed (opening closing : Char) : Option Text → Text → Prop
  | absent : Bracketed opening closing none []
  | present {blanks content : Text} : Gap blanks → Enclosed closing content →
      Bracketed opening closing (some content) (blanks ++ opening :: content ++ [closing])

inductive Spaced : List Text → Text → Prop
  | nil : Spaced [] []
  | cons {blanks word text : Text} {words : List Text} : Gap blanks → Word word →
      Spaced words text → Spaced (word :: words) (blanks ++ word ++ text)

variable {opening closing : Char} {text written rest : Text} {found : Option Text}

theorem Opens.startsInk (ink : isInk opening = true) (opens : Opens opening closing text) :
    StartsInk text := by
  obtain ⟨content, rest, -, rfl⟩ := opens
  intro c member
  obtain rfl : opening = c := by simpa using member
  exact isInk_eq_true.mp ink

theorem Bracketed.startsBlank (field : Bracketed opening closing found written)
    (stops : StartsBlank rest) : StartsBlank (written ++ rest) := by
  cases field with
  | absent => exact stops
  | present gap _ =>
      rw [List.append_assoc, List.append_assoc]
      exact gap.startsBlank _

theorem Spaced.startsBlank {words : List Text} (trailing : Spaced words text) :
    StartsBlank text := by
  cases trailing with
  | nil => exact startsBlank_nil
  | cons gap _ _ =>
      rw [List.append_assoc]
      exact gap.startsBlank _

theorem Spaced.append {words others : List Text} {first second : Text}
    (left : Spaced words first) (right : Spaced others second) :
    Spaced (words ++ others) (first ++ second) := by
  induction left with
  | nil => exact right
  | cons gap word _ ih =>
      rw [List.append_assoc]
      exact .cons gap word ih

theorem middle_eq {blanks otherBlanks middle other : Text} (gapped : Gap blanks)
    (otherGapped : Gap otherBlanks) (starts : StartsInk middle) (otherStarts : StartsInk other)
    (same : blanks ++ middle = otherBlanks ++ other) : middle = other := by
  have first := gap_append gapped starts
  rw [same, gap_append otherGapped otherStarts] at first
  simpa using first.symm

theorem spaced_delimited_eq_none_iff (ink : isInk opening = true) :
    spaced (delimited opening closing) text = none ↔
      ∀ blanks middle, Gap blanks → text = blanks ++ middle → ¬Opens opening closing middle := by
  constructor
  · rintro absent blanks middle gapped rfl opens
    rw [spaced_append gapped (opens.startsInk ink)] at absent
    obtain ⟨content, rest, ⟨nonempty, unclosed⟩, equal⟩ := opens
    rw [delimited_eq_some_iff.mpr ⟨nonempty, unclosed, equal⟩] at absent
    simp at absent
  · intro unopened
    cases taken : spaced (delimited opening closing) text with
    | none => rfl
    | some fields =>
        obtain ⟨blanks, middle, gapped, equal, -, inner⟩ := spaced_eq_some_iff.mp taken
        obtain ⟨nonempty, unclosed, opened⟩ := delimited_eq_some_iff.mp inner
        exact absurd ⟨fields.1, fields.2, ⟨nonempty, unclosed⟩, opened⟩
          (unopened blanks middle gapped equal)

/-- A bracketed field is read exactly when it is written, and left out only when no closed pair
of marks stands there. -/
theorem maybe_delimited_eq_some_iff (ink : isInk opening = true) :
    maybe (spaced (delimited opening closing)) text = some (found, rest) ↔
      ∃ written, Bracketed opening closing found written ∧ text = written ++ rest ∧
        (found = none → spaced (delimited opening closing) text = none) := by
  rw [maybe_eq_some_iff]
  constructor
  · rintro (⟨content, rfl, taken⟩ | ⟨rfl, absent, rfl⟩)
    · obtain ⟨blanks, middle, gapped, rfl, -, inner⟩ := spaced_eq_some_iff.mp taken
      obtain ⟨nonempty, unclosed, rfl⟩ := delimited_eq_some_iff.mp inner
      exact ⟨_, .present gapped ⟨nonempty, unclosed⟩, by simp, by simp⟩
    · exact ⟨[], .absent, rfl, fun _ => absent⟩
  · rintro ⟨written, field, rfl, unopened⟩
    cases field with
    | absent => exact Or.inr ⟨rfl, unopened rfl, rfl⟩
    | @present blanks content gapped enclosed =>
        have opened : Opens opening closing (opening :: content ++ closing :: rest) :=
          ⟨content, rest, enclosed, rfl⟩
        refine Or.inl ⟨content, rfl, spaced_eq_some_iff.mpr ?_⟩
        exact ⟨blanks, _, gapped, by simp, opened.startsInk ink,
          delimited_eq_some_iff.mpr ⟨enclosed.1, enclosed.2, rfl⟩⟩

theorem arguments_append (field : Bracketed '[' ']' found written)
    (unopened : spaced (delimited '[' ']') rest = none) :
    arguments (written ++ rest) = some (found, rest) := by
  refine (maybe_delimited_eq_some_iff (by decide)).mpr ⟨written, field, rfl, ?_⟩
  intro absent
  rw [absent] at field
  cases field
  exact unopened

theorem settings_eq_some_iff {extras : Extras} :
    settings text = some (extras, rest) ↔
      ∃ block, maybe (spaced (delimited '(' ')')) text = some (block, rest) ∧
        extras = (block.map Extras.parse).getD Extras.empty := by
  unfold settings maybe
  cases spaced (delimited '(' ')') text with
  | none => simp [eq_comm, and_comm]
  | some taken =>
      obtain ⟨content, after⟩ := taken
      simp [eq_comm, and_comm]

theorem settings_gap_iff {extras : Extras} :
    (∃ middle, settings text = some (extras, middle) ∧ gap middle = some ((), rest)) ↔
      ∃ block written blanks, Bracketed '(' ')' block written ∧ Gap blanks ∧ StartsInk rest ∧
        text = written ++ blanks ++ rest ∧ (block = none → ¬Opens '(' ')' rest) ∧
        extras = (block.map Extras.parse).getD Extras.empty := by
  have ink : isInk '(' = true := by decide
  constructor
  · rintro ⟨middle, settingsTaken, gapTaken⟩
    obtain ⟨block, blockTaken, rfl⟩ := settings_eq_some_iff.mp settingsTaken
    obtain ⟨written, field, rfl, absent⟩ := (maybe_delimited_eq_some_iff ink).mp blockTaken
    obtain ⟨blanks, nonempty, uniform, rfl, starts⟩ := gap_eq_some_iff.mp gapTaken
    refine ⟨block, written, blanks, field, ⟨nonempty, uniform⟩, starts, by simp, ?_, rfl⟩
    rintro rfl
    cases field
    exact (spaced_delimited_eq_none_iff ink).mp (absent rfl) blanks rest ⟨nonempty, uniform⟩ rfl
  · rintro ⟨block, written, blanks, field, gapped, starts, rfl, unopened, rfl⟩
    refine ⟨blanks ++ rest, settings_eq_some_iff.mpr ⟨block, ?_, rfl⟩, gap_append gapped starts⟩
    refine (maybe_delimited_eq_some_iff ink).mpr ⟨written, field, by simp, ?_⟩
    rintro rfl
    cases field
    refine (spaced_delimited_eq_none_iff ink).mpr ?_
    intro otherBlanks other otherGapped same opens
    have equal := middle_eq gapped otherGapped starts (opens.startsInk ink) (by simpa using same)
    exact unopened rfl (equal ▸ opens)

theorem Spaced.spaced_delimited_eq_none {words : List Text} (ink : isInk opening = true)
    (trailing : Spaced words text) (unopened : ∀ word ∈ words, word.head? ≠ some opening) :
    spaced (delimited opening closing) text = none := by
  rw [spaced_delimited_eq_none_iff ink]
  intro blanks middle gapped equal opens
  cases trailing with
  | nil => exact gapped.1 (List.append_eq_nil_iff.mp equal.symm).1
  | @cons otherBlanks word after words otherGapped wordInk later =>
      rw [List.append_assoc] at equal
      have same := middle_eq otherGapped gapped (startsInk_word_append wordInk after)
        (opens.startsInk ink) equal
      obtain ⟨content, rest, -, rfl⟩ := opens
      apply unopened word List.mem_cons_self
      cases word with
      | nil => exact absurd rfl wordInk.1
      | cons c word =>
          obtain ⟨rfl, -⟩ := List.cons.inj same
          rfl

def firstWord (accepts : Text → Bool) (words : List Text) : Option Text :=
  words.head?.filter accepts

def afterWord (accepts : Text → Bool) (words : List Text) : List Text :=
  words.drop (firstWord accepts words).toList.length

theorem firstWord_cons (accepts : Text → Bool) (word : Text) (words : List Text) :
    firstWord accepts (word :: words) = if accepts word then some word else none :=
  rfl

theorem afterWord_cons (accepts : Text → Bool) (word : Text) (words : List Text) :
    afterWord accepts (word :: words) = if accepts word then words else word :: words := by
  rw [afterWord, firstWord_cons]
  by_cases accepted : accepts word = true <;> simp [accepted]

theorem firstWord_congr {accepts other : Text → Bool} {words : List Text}
    (agree : ∀ word ∈ words, accepts word = other word) :
    firstWord accepts words = firstWord other words := by
  cases words with
  | nil => rfl
  | cons word words => rw [firstWord_cons, firstWord_cons, agree word List.mem_cons_self]

theorem afterWord_congr {accepts other : Text → Bool} {words : List Text}
    (agree : ∀ word ∈ words, accepts word = other word) :
    afterWord accepts words = afterWord other words := by
  rw [afterWord, afterWord, firstWord_congr agree]

theorem mem_of_mem_afterWord {accepts : Text → Bool} {words : List Text} {word : Text}
    (member : word ∈ afterWord accepts words) : word ∈ words :=
  List.mem_of_mem_drop member

theorem Spaced.maybe_word {words : List Text} (trailing : Spaced words text)
    (accepts : Text → Bool) :
    ∃ rest, maybe (spaced (wordWhere accepts)) text = some (firstWord accepts words, rest) ∧
      Spaced (afterWord accepts words) rest := by
  cases trailing with
  | nil => exact ⟨[], maybe_eq_some_iff.mpr (Or.inr ⟨rfl, rfl, rfl⟩), .nil⟩
  | @cons blanks word after words gapped wordInk later =>
      have reaches : spaced (wordWhere accepts) (blanks ++ word ++ after) =
          wordWhere accepts (word ++ after) := by
        rw [List.append_assoc]
        exact spaced_append gapped (startsInk_word_append wordInk after)
      by_cases accepted : accepts word = true
      · rw [firstWord_cons, afterWord_cons, if_pos accepted, if_pos accepted]
        refine ⟨after, maybe_eq_some_iff.mpr (Or.inl ⟨word, rfl, ?_⟩), later⟩
        rw [reaches]
        exact wordWhere_eq_some_iff.mpr ⟨accepted, wordInk, later.startsBlank, rfl⟩
      · rw [firstWord_cons, afterWord_cons, if_neg accepted, if_neg accepted]
        refine ⟨_, maybe_eq_some_iff.mpr (Or.inr ⟨rfl, ?_, rfl⟩), .cons gapped wordInk later⟩
        rw [reaches, wordWhere, word_append wordInk later.startsBlank]
        simp [accepted]

theorem Spaced.text_eq_nil (trailing : Spaced [] text) : text = [] := by
  cases trailing
  rfl

theorem Spaced.eq_nil {words : List Text} (trailing : Spaced words []) : words = [] := by
  generalize empty : ([] : Text) = text at trailing
  cases trailing with
  | nil => rfl
  | cons gapped wordInk _ =>
      have both := (List.append_eq_nil_iff.mp empty.symm).1
      exact absurd (List.append_eq_nil_iff.mp both).2 wordInk.1

theorem spaced_of_maybe_word {accepts : Text → Bool}
    (taken : maybe (spaced (wordWhere accepts)) text = some (found, rest)) :
    ∃ written, Spaced found.toList written ∧ text = written ++ rest ∧
      ∀ word ∈ found, accepts word = true := by
  rcases maybe_eq_some_iff.mp taken with ⟨word, rfl, present⟩ | ⟨rfl, -, rfl⟩
  · obtain ⟨blanks, middle, gapped, rfl, -, inner⟩ := spaced_eq_some_iff.mp present
    obtain ⟨accepted, wordInk, -, rfl⟩ := wordWhere_eq_some_iff.mp inner
    exact ⟨blanks ++ word ++ [], .cons gapped wordInk .nil, by simp, by simpa using accepted⟩
  · exact ⟨[], .nil, rfl, by simp⟩

end Supervision.RecordField
