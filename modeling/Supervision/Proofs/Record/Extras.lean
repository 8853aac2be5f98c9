import Supervision.Proofs.Record.Fields
import Supervision.Proofs.Record.Settings

/-!
Option blocks in normal form: one blank between two settings, and nothing but settings. A block in
normal form is read back as it is, and every block has the same settings as one in normal form.
-/

namespace Supervision

open Text

/-- A pair that a block can hold: both of its texts are words, and the first `=` of its token is
the one between them. -/
structure IsPlain (pair : Text × Text) : Prop where
  key : Word pair.1
  value : Word pair.2
  unmarked : '=' ∉ pair.1

instance (pair : Text × Text) : Decidable (IsPlain pair) :=
  decidable_of_iff (Word pair.1 ∧ Word pair.2 ∧ '=' ∉ pair.1)
    ⟨fun ⟨key, value, unmarked⟩ => ⟨key, value, unmarked⟩,
      fun ⟨key, value, unmarked⟩ => ⟨key, value, unmarked⟩⟩

def settingToken (pair : Text × Text) : Text :=
  pair.1 ++ '=' :: pair.2

theorem IsPlain.isSetting {pair : Text × Text} (plain : IsPlain pair) :
    IsSetting (settingToken pair) pair :=
  ⟨plain.key.1, plain.unmarked, plain.value.1, rfl⟩

theorem IsPlain.word_settingToken {pair : Text × Text} (plain : IsPlain pair) :
    Word (settingToken pair) := by
  refine ⟨by simp [settingToken], fun c member => ?_⟩
  rcases List.mem_append.mp member with inKey | inRest
  · exact plain.key.2 c inKey
  · rcases List.mem_cons.mp inRest with rfl | inValue
    · decide
    · exact plain.value.2 c inValue

theorem settingsAmong_map_settingToken {pairs : List (Text × Text)}
    (plain : ∀ pair ∈ pairs, IsPlain pair) : SettingsAmong (pairs.map settingToken) pairs := by
  induction pairs with
  | nil => exact .nil
  | cons pair pairs ih =>
      obtain ⟨first, others⟩ := List.forall_mem_cons.mp plain
      exact .setting first.isSetting (ih others)

namespace Extras

def print (extras : Extras) : Text :=
  joinWith [' '] (extras.pairs.map settingToken)

def normalize (block : Text) : Text :=
  (parse block).print

theorem isPlain_of_mem_parse {block : Text} {pair : Text × Text}
    (member : pair ∈ (parse block).pairs) : IsPlain pair := by
  obtain ⟨key, value⟩ := words_parse block pair member
  obtain ⟨token, -, taken⟩ := List.mem_filterMap.mp member
  exact ⟨key, value, (setting?_eq_some_iff.mp taken).2.1⟩

theorem parse_print {extras : Extras} (plain : ∀ pair ∈ extras.pairs, IsPlain pair) :
    parse extras.print = extras := by
  have whole : ∀ token ∈ extras.pairs.map settingToken,
      token ≠ [] ∧ ∀ c ∈ token, isBlank c = false := by
    intro token member
    obtain ⟨pair, inside, rfl⟩ := List.mem_map.mp member
    obtain ⟨nonempty, ink⟩ := (plain pair inside).word_settingToken
    exact ⟨nonempty, fun c found => isInk_eq_true.mp (ink c found)⟩
  have tokens : words extras.print = extras.pairs.map settingToken :=
    runs_joinWith (by decide) whole
  have same : extras.pairs = (parse extras.print).pairs :=
    settingsAmong_words_iff.mp (tokens ▸ settingsAmong_map_settingToken plain)
  exact congrArg Extras.mk same.symm

theorem parse_normalize (block : Text) : parse (normalize block) = parse block :=
  parse_print fun _ member => isPlain_of_mem_parse member

theorem pairs_parse_between {blanks : Text} (gap : Gap blanks) (before after : Text) :
    (parse (before ++ blanks ++ after)).pairs = (parse before).pairs ++ (parse after).pairs := by
  unfold parse
  rw [gap.words_between, List.filterMap_append]

theorem get?_eq_some_iff {extras : Extras} {key value : Text} :
    extras.get? key = some value ↔
      ∃ before after, extras.pairs = before ++ (key, value) :: after ∧
        ∀ pair ∈ before, pair.1 ≠ key := by
  rw [get?, List.lookup_eq_some_iff]
  simp only [bne_iff_ne, ne_comm]

theorem contains_iff_get? {extras : Extras} {key : Text} :
    extras.contains key = true ↔ ∃ value, extras.get? key = some value := by
  rw [← Option.isSome_iff_exists, get?, List.lookup_isSome_iff, contains, List.any_eq_true]
  simp only [beq_iff_eq, @eq_comm _ key]

/-- The settings of a block are plain, and they are those of its tokens that are settings, in order.
Plain settings are read back from the block in normal form, which a second normalization leaves as
it is. A gap divides the settings of a block into those before and those after it, and a key is
there exactly when its first value is found. -/
theorem settings_normal_form :
    (∀ block, (∀ pair ∈ (parse block).pairs, IsPlain pair) ∧
      ∃ tokens, Runs isBlank block tokens ∧
        ∀ settings, SettingsAmong tokens settings ↔ settings = (parse block).pairs) ∧
    (∀ extras : Extras, (∀ pair ∈ extras.pairs, IsPlain pair) → parse extras.print = extras) ∧
    (∀ block, normalize (normalize block) = normalize block) ∧
    (∀ before blanks after, Gap blanks →
      (parse (before ++ blanks ++ after)).pairs = (parse before).pairs ++ (parse after).pairs) ∧
    ∀ (extras : Extras) (key : Text), extras.contains key = true ↔
      ∃ value before after, extras.get? key = some value ∧
        extras.pairs = before ++ (key, value) :: after ∧ ∀ pair ∈ before, pair.1 ≠ key := by
  refine ⟨fun block => ⟨fun pair member => isPlain_of_mem_parse member, words block,
    runs_spec isBlank block, fun settings => settingsAmong_words_iff⟩,
    fun extras plain => parse_print plain, ?_, fun before blanks after gap =>
      pairs_parse_between gap before after, ?_⟩
  · intro block
    rw [normalize, parse_normalize]
    rfl
  · intro extras key
    rw [contains_iff_get?]
    constructor
    · rintro ⟨value, found⟩
      obtain ⟨before, after, split, earlier⟩ := get?_eq_some_iff.mp found
      exact ⟨value, before, after, found, split, earlier⟩
    · rintro ⟨value, -, -, found, -⟩
      exact ⟨value, found⟩

theorem settings_normal_form_of_tokens :
    let block : Text := " a=1\tjunk =2 b=\n c=x=y  a=2".toList
    let extras : Extras := ⟨[("a".toList, "1".toList), ("c".toList, "x=y".toList),
      ("a".toList, "2".toList)]⟩
    (∀ pair ∈ extras.pairs, IsPlain pair) ∧ parse extras.print = extras ∧
      normalize block = "a=1 c=x=y a=2".toList ∧
      normalize "a=1 c=x=y a=2".toList = "a=1 c=x=y a=2".toList ∧
      (parse ("a=1".toList ++ "\u00a0\n".toList ++ block)).pairs =
        ("a".toList, "1".toList) :: extras.pairs := by
  intro block extras
  obtain ⟨-, readBack, again, divided, -⟩ := settings_normal_form
  have plain : ∀ pair ∈ extras.pairs, IsPlain pair := by decide
  have normal : normalize block = "a=1 c=x=y a=2".toList := by decide +kernel
  have gap : Gap "\u00a0\n".toList := ⟨by decide, allBlank_iff.mp (by decide)⟩
  have settings : (parse block).pairs = extras.pairs := by decide +kernel
  refine ⟨plain, readBack extras plain, normal, normal ▸ again block, ?_⟩
  rw [divided _ _ _ gap, settings]
  rfl

end Extras

end Supervision
