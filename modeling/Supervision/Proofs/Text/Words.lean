import Supervision.Proofs.Text.Runs

/-!
Words and the blanks between them: how words are read off a text, and what trimming leaves.
-/

namespace Supervision.Text

def Gap (text : Text) : Prop :=
  text ≠ [] ∧ ∀ c ∈ text, isBlank c = true

def Word (text : Text) : Prop :=
  text ≠ [] ∧ ∀ c ∈ text, isInk c = true

instance (text : Text) : Decidable (Word text) :=
  decidable_of_iff (text ≠ [] ∧ text.all isInk = true) (and_congr_right fun _ => List.all_eq_true)

/-- A text that does not go on with a word. -/
def StartsBlank (text : Text) : Prop :=
  ∀ c ∈ text.head?, isInk c = false

theorem isInk_eq_false {c : Char} : isInk c = false ↔ isBlank c = true := by
  simp [isInk]

theorem isInk_eq_true {c : Char} : isInk c = true ↔ isBlank c = false := by
  simp [isInk]

theorem isInk_of_isDigit {c : Char} (digit : c.isDigit = true) : isInk c = true := by
  have bounds : 48 ≤ c.toNat ∧ c.toNat ≤ 57 := by
    simpa [Char.isDigit, UInt32.le_iff_toNat_le] using digit
  have apart : ∀ range ∈ blankRanges, range.2 < 48 ∨ 57 < range.1 := by decide
  rw [isInk_eq_true, isBlank, inRanges, List.any_eq_false]
  intro range member
  have outside := apart range member
  simp only [Bool.and_eq_true, decide_eq_true_eq]
  omega

theorem allBlank_iff {text : Text} : allBlank text = true ↔ ∀ c ∈ text, isBlank c = true :=
  List.all_eq_true

theorem startsBlank_nil : StartsBlank [] := by
  intro c member
  simp at member

theorem Gap.startsBlank {blanks : Text} (gap : Gap blanks) (rest : Text) :
    StartsBlank (blanks ++ rest) := by
  obtain ⟨nonempty, uniform⟩ := gap
  cases blanks with
  | nil => exact absurd rfl nonempty
  | cons b blanks =>
      intro c member
      obtain rfl : b = c := by simpa using member
      exact isInk_eq_false.mpr (uniform b List.mem_cons_self)

/-! Words. -/

theorem word_of_mem_words {text word : Text} (found : word ∈ words text) : Word word := by
  obtain ⟨nonempty, inside⟩ := mem_runs found
  exact ⟨nonempty, fun c member => isInk_eq_true.mpr (inside c member).2⟩

theorem Word.blank_not_mem {word : Text} (ink : Word word) {c : Char} (blank : isBlank c = true) :
    c ∉ word := by
  intro member
  have notBlank := isInk_eq_true.mp (ink.2 c member)
  simp [blank] at notBlank

theorem Word.words_append {word rest : Text} (ink : Word word) (stops : StartsBlank rest) :
    words (word ++ rest) = word :: words rest :=
  runs_run_append ink.1 (fun c member => isInk_eq_true.mp (ink.2 c member))
    fun c member => isInk_eq_false.mp (stops c member)

theorem Word.words_eq {word : Text} (ink : Word word) : words word = [word] := by
  have whole := ink.words_append startsBlank_nil
  rwa [List.append_nil] at whole

theorem Gap.words_append {blanks : Text} (gap : Gap blanks) (rest : Text) :
    words (blanks ++ rest) = words rest :=
  runs_cuts_append gap.2 rest

theorem Gap.words_between {blanks : Text} (gap : Gap blanks) (before after : Text) :
    words (before ++ blanks ++ after) = words before ++ words after := by
  obtain ⟨nonempty, uniform⟩ := gap
  cases blanks with
  | nil => exact absurd rfl nonempty
  | cons c blanks =>
      obtain ⟨blank, later⟩ := List.forall_mem_cons.mp uniform
      rw [List.append_assoc, List.cons_append, words, runs_append blank, runs_cuts_append later]
      rfl

theorem allBlank_or_exists_word (text : Text) :
    allBlank text = true ∨ ∃ before word rest, (∀ c ∈ before, isBlank c = true) ∧ Word word ∧
      StartsBlank rest ∧ text = before ++ word ++ rest := by
  rcases cuts_or_exists_run isBlank text with
    uniform | ⟨before, word, rest, uniform, nonempty, uncut, stops, equal⟩
  · exact Or.inl (allBlank_iff.mpr uniform)
  · exact Or.inr ⟨before, word, rest, uniform,
      ⟨nonempty, fun c member => isInk_eq_true.mpr (uncut c member)⟩,
      fun c member => isInk_eq_false.mpr (stops c member), equal⟩

theorem words_eq_nil_iff {text : Text} : words text = [] ↔ allBlank text = true :=
  runs_eq_nil_iff.trans allBlank_iff.symm

/-- The first word of a text is what follows the blanks at its front. -/
theorem words_eq_cons_iff {text word : Text} {others : List Text} :
    words text = word :: others ↔
      ∃ before rest, (∀ c ∈ before, isBlank c = true) ∧ Word word ∧ StartsBlank rest ∧
        text = before ++ word ++ rest ∧ words rest = others := by
  have read : ∀ {before word rest : Text}, (∀ c ∈ before, isBlank c = true) → Word word →
      StartsBlank rest → words (before ++ word ++ rest) = word :: words rest := by
    intro before word rest uniform ink stops
    rw [List.append_assoc]
    exact (runs_cuts_append uniform _).trans (ink.words_append stops)
  constructor
  · intro found
    rcases allBlank_or_exists_word text with blank | ⟨before, first, rest, uniform, ink, stops, rfl⟩
    · rw [words_eq_nil_iff.mpr blank] at found
      cases found
    · rw [read uniform ink stops] at found
      obtain ⟨rfl, rfl⟩ := List.cons.inj found
      exact ⟨before, rest, uniform, ink, stops, rfl, rfl⟩
  · rintro ⟨before, rest, uniform, ink, stops, rfl, rfl⟩
    exact read uniform ink stops

/-! Trimming. -/

theorem exists_blanks_trimEnd (text : Text) :
    ∃ after, (∀ c ∈ after, isBlank c = true) ∧ text = trimEnd text ++ after := by
  obtain ⟨back, uniform, -⟩ := takeWhile_dropWhile_iff.mp
    ⟨rfl, (rfl : text.reverse.dropWhile isBlank = _)⟩
  refine ⟨(text.reverse.takeWhile isBlank).reverse, ?_, ?_⟩
  · intro c member
    exact uniform c (List.mem_reverse.mp member)
  · have reversed := congrArg List.reverse back
    rwa [List.reverse_reverse, List.reverse_append] at reversed

theorem exists_blanks_trimStart (text : Text) :
    ∃ before, (∀ c ∈ before, isBlank c = true) ∧ text = before ++ trimStart text ∧
      ∀ c ∈ (trimStart text).head?, isBlank c = false := by
  obtain ⟨front, uniform, starts⟩ := takeWhile_dropWhile_iff.mp
    ⟨rfl, (rfl : text.dropWhile isBlank = trimStart text)⟩
  exact ⟨text.takeWhile isBlank, uniform, front, starts⟩

theorem exists_blanks_trim (text : Text) :
    ∃ before after, (∀ c ∈ before, isBlank c = true) ∧ (∀ c ∈ after, isBlank c = true) ∧
      text = before ++ trim text ++ after := by
  obtain ⟨before, uniform, front, -⟩ := exists_blanks_trimStart text
  obtain ⟨after, uniformAfter, back⟩ := exists_blanks_trimEnd (trimStart text)
  refine ⟨before, after, uniform, uniformAfter, ?_⟩
  rw [List.append_assoc, trim, ← back]
  exact front

theorem trim_eq_self {text : Text} (starts : ∀ c ∈ text.head?, isBlank c = false)
    (ends : ∀ c ∈ text.getLast?, isBlank c = false) : trim text = text := by
  have front : trimStart text = text :=
    (takeWhile_dropWhile_iff.mpr ⟨(List.nil_append text).symm, by simp, starts⟩).2
  have back : text.reverse.dropWhile isBlank = text.reverse :=
    (takeWhile_dropWhile_iff.mpr
      ⟨(List.nil_append text.reverse).symm, by simp, by simpa using ends⟩).2
  rw [trim, front, trimEnd, back, List.reverse_reverse]

theorem mem_of_mem_trim {text : Text} {c : Char} (member : c ∈ trim text) : c ∈ text := by
  obtain ⟨before, after, -, -, equal⟩ := exists_blanks_trim text
  rw [equal]
  simp [member]

theorem trimEnd_append_blanks {after : Text} (uniform : ∀ c ∈ after, isBlank c = true)
    (text : Text) : trimEnd (text ++ after) = trimEnd text := by
  have reversed : ∀ c ∈ after.reverse, isBlank c = true :=
    fun c member => uniform c (List.mem_reverse.mp member)
  rw [trimEnd, trimEnd, List.reverse_append, List.dropWhile_append_of_pos reversed]

theorem trim_append_blanks {after : Text} (uniform : ∀ c ∈ after, isBlank c = true)
    (text : Text) : trim (text ++ after) = trim text := by
  rw [trim, trim, trimStart, List.dropWhile_append, ← trimStart]
  split
  · rename_i empty
    have none := (takeWhile_dropWhile_iff.mpr ⟨(List.append_nil after).symm, uniform, by simp⟩).2
    rw [none, List.isEmpty_iff.mp empty]
  · exact trimEnd_append_blanks uniform _

theorem words_trim (text : Text) : words (trim text) = words text := by
  obtain ⟨before, after, uniformBefore, uniformAfter, equal⟩ := exists_blanks_trim text
  calc words (trim text)
      = words (before ++ trim text) := (runs_cuts_append uniformBefore _).symm
    _ = words (before ++ trim text ++ after) := (runs_append_cuts uniformAfter _).symm
    _ = words text := by rw [← equal]

theorem eq_nil_of_trim_eq_append {text front rest : Text} (equal : trim text = front ++ rest)
    (blank : allBlank rest = true) : rest = [] := by
  have stops := List.head?_dropWhile_not isBlank (trimStart text).reverse
  cases reversed : rest.reverse with
  | nil => exact List.reverse_eq_nil_iff.mp reversed
  | cons c others =>
      have dropped : (trimStart text).reverse.dropWhile isBlank = c :: others ++ front.reverse := by
        have both : trimEnd (trimStart text) = front ++ rest := equal
        rw [← reversed, ← List.reverse_append, ← both, trimEnd, List.reverse_reverse]
      have member : c ∈ rest := List.mem_reverse.mp (reversed ▸ List.mem_cons_self)
      rw [dropped] at stops
      simp [allBlank_iff.mp blank c member] at stops

theorem eq_nil_of_trim_eq_blanks_append {text front rest : Text} (equal : trim text = front ++ rest)
    (blank : allBlank front = true) : front = [] := by
  have starts := List.head?_dropWhile_not isBlank text
  obtain ⟨after, -, back⟩ := exists_blanks_trimEnd (trimStart text)
  have whole : text.dropWhile isBlank = front ++ rest ++ after := by
    rw [← equal]
    exact back
  cases front with
  | nil => rfl
  | cons c front =>
      rw [whole] at starts
      simp [allBlank_iff.mp blank c List.mem_cons_self] at starts

theorem trim_trim (text : Text) : trim (trim text) = trim text := by
  obtain ⟨before, after, uniformBefore, uniformAfter, equal⟩ := exists_blanks_trim (trim text)
  obtain rfl := eq_nil_of_trim_eq_append equal (allBlank_iff.mpr uniformAfter)
  rw [List.append_nil] at equal
  obtain rfl := eq_nil_of_trim_eq_blanks_append equal (allBlank_iff.mpr uniformBefore)
  exact equal.symm

theorem trim_eq_nil_iff {text : Text} : trim text = [] ↔ allBlank text = true := by
  obtain ⟨before, after, uniformBefore, uniformAfter, equal⟩ := exists_blanks_trim text
  rw [allBlank_iff]
  constructor
  · intro empty c member
    rw [equal, empty, List.append_nil] at member
    rcases List.mem_append.mp member with inFront | atEnd
    · exact uniformBefore c inFront
    · exact uniformAfter c atEnd
  · intro uniform
    have whole : trim text = [] ++ trim text := rfl
    exact eq_nil_of_trim_eq_append whole
      (allBlank_iff.mpr fun c member => uniform c (mem_of_mem_trim member))

end Supervision.Text
