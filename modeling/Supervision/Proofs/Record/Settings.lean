import Supervision.Proofs.Record.Layout
import Supervision.Proofs.Record.ProgramLayout

/-!
The settings of a line: those tokens of its option block that have a key and a value, in the order
in which they are written, and what stands under each key.
-/

namespace Supervision

open Text Reader

/-- The token has a key before its first `=`, and a value after it. -/
def IsSetting (token : Text) (setting : Text × Text) : Prop :=
  setting.1 ≠ [] ∧ '=' ∉ setting.1 ∧ setting.2 ≠ [] ∧ token = setting.1 ++ '=' :: setting.2

inductive SettingsAmong : List Text → List (Text × Text) → Prop
  | nil : SettingsAmong [] []
  | setting {token : Text} {setting : Text × Text} {tokens : List Text}
      {settings : List (Text × Text)} : IsSetting token setting → SettingsAmong tokens settings →
      SettingsAmong (token :: tokens) (setting :: settings)
  | other {token : Text} {tokens : List Text} {settings : List (Text × Text)} :
      (∀ setting, ¬IsSetting token setting) → SettingsAmong tokens settings →
      SettingsAmong (token :: tokens) settings

/-- The values that stand under a key, in their order. -/
def valuesUnder (key : Text) (entries : List (Text × Text)) : List Text :=
  (entries.filter fun entry => entry.1 == key).map Prod.snd

theorem valuesUnder_append (key : Text) (entries others : List (Text × Text)) :
    valuesUnder key (entries ++ others) = valuesUnder key entries ++ valuesUnder key others := by
  rw [valuesUnder, List.filter_append, List.map_append]
  rfl

theorem valuesUnder_eq_nil_iff {key : Text} {entries : List (Text × Text)} :
    valuesUnder key entries = [] ↔ key ∉ entries.map Prod.fst := by
  rw [valuesUnder, List.map_eq_nil_iff, List.filter_eq_nil_iff, List.mem_map, not_exists]
  simp only [beq_iff_eq, not_and]

theorem valuesUnder_filter (key : Text) (keep : Text → Bool) (entries : List (Text × Text)) :
    valuesUnder key (entries.filter fun entry => keep entry.1) =
      if keep key then valuesUnder key entries else [] := by
  have atKey : ∀ entry : Text × Text,
      (entry.1 == key && keep entry.1) = (entry.1 == key && keep key) := by
    intro entry
    by_cases same : entry.1 = key
    · rw [same]
    · rw [beq_eq_false_iff_ne.mpr same, Bool.false_and, Bool.false_and]
  rw [valuesUnder, List.filter_filter]
  simp only [atKey]
  by_cases kept : keep key = true
  · simp only [kept, Bool.and_true, ↓reduceIte, valuesUnder]
  · simp only [kept, Bool.and_false, Bool.false_eq_true, ↓reduceIte, List.filter_false,
      List.map_nil]

theorem lookup_eq_head?_valuesUnder (key : Text) (entries : List (Text × Text)) :
    entries.lookup key = (valuesUnder key entries).head? := by
  induction entries with
  | nil => rfl
  | cons entry entries ih =>
      obtain ⟨first, value⟩ := entry
      by_cases same : first = key
      · simp [valuesUnder, same]
      · have reversed : (key == first) = false := beq_eq_false_iff_ne.mpr (Ne.symm same)
        simp only [List.lookup_cons, reversed, ih, valuesUnder, beq_iff_eq, same,
          not_false_eq_true, List.filter_cons_of_neg]

namespace Extras

theorem setting?_eq_some_iff {token : Text} {setting : Text × Text} :
    setting? token = some setting ↔ IsSetting token setting := by
  obtain ⟨key, value⟩ := setting
  simp only [setting?, Option.filter_eq_some_iff, splitOnce_eq_some_iff, Bool.and_eq_true,
    Bool.not_eq_true', List.isEmpty_eq_false_iff, IsSetting]
  constructor
  · rintro ⟨⟨absent, equal⟩, hasKey, hasValue⟩
    exact ⟨hasKey, absent, hasValue, equal⟩
  · rintro ⟨hasKey, absent, hasValue, equal⟩
    exact ⟨⟨absent, equal⟩, hasKey, hasValue⟩

theorem filterMap_setting?_eq_iff {tokens : List Text} {settings : List (Text × Text)} :
    tokens.filterMap setting? = settings ↔ SettingsAmong tokens settings := by
  constructor
  · rintro rfl
    induction tokens with
    | nil => exact .nil
    | cons token tokens ih =>
        cases taken : setting? token with
        | none =>
            rw [List.filterMap_cons_none taken]
            refine .other (fun setting isSetting => ?_) ih
            rw [setting?_eq_some_iff.mpr isSetting] at taken
            cases taken
        | some setting =>
            rw [List.filterMap_cons_some taken]
            exact .setting (setting?_eq_some_iff.mp taken) ih
  · intro among
    induction among with
    | nil => rfl
    | setting isSetting _ ih =>
        rw [List.filterMap_cons_some (setting?_eq_some_iff.mpr isSetting), ih]
    | @other token _ _ noSetting _ ih =>
        have dropped : setting? token = none :=
          Option.eq_none_iff_forall_ne_some.mpr fun setting taken =>
            noSetting setting (setting?_eq_some_iff.mp taken)
        rw [List.filterMap_cons_none dropped, ih]

theorem settingsAmong_words_iff {block : Text} {settings : List (Text × Text)} :
    SettingsAmong (words block) settings ↔ settings = (Extras.parse block).pairs := by
  rw [← filterMap_setting?_eq_iff, eq_comm]
  rfl

theorem settingsAmong_getD_iff {block : Option Text} {settings : List (Text × Text)} :
    SettingsAmong (words (block.getD [])) settings ↔
      settings = ((block.map Extras.parse).getD Extras.empty).pairs := by
  rw [settingsAmong_words_iff]
  cases block <;> rfl

theorem get?_eq_head?_valuesUnder (extras : Extras) (key : Text) :
    extras.get? key = (valuesUnder key extras.pairs).head? :=
  lookup_eq_head?_valuesUnder key extras.pairs

theorem not_contains_eq (extras : Extras) (key : Text) :
    (!extras.contains key) = (valuesUnder key extras.pairs).isEmpty := by
  rw [Bool.eq_iff_iff, Bool.not_eq_true', contains, List.any_eq_false, List.isEmpty_iff, valuesUnder,
    List.map_eq_nil_iff, List.filter_eq_nil_iff]

end Extras

/-! Lines with their settings. -/

def Program.LineSets (line : Text) (settings : List (Text × Text)) : Prop :=
  ∃ layout : ProgramLayout, layout.Written (trim line) ∧
    SettingsAmong (words (layout.settings.getD [])) settings

def EventListener.LineSets (line : Text) (settings : List (Text × Text)) : Prop :=
  ∃ layout : ListenerLayout, layout.Written (trim line) ∧
    SettingsAmong (words (layout.settings.getD [])) settings

theorem Program.lineSets_iff {line : Text} {program : Program}
    (reads : Program.reader.Reads line program) {settings : List (Text × Text)} :
    Program.LineSets line settings ↔ settings = program.extras.pairs := by
  constructor
  · rintro ⟨layout, written, among⟩
    rw [← Program.program_of_written reads written]
    exact Extras.settingsAmong_getD_iff.mp among
  · rintro rfl
    obtain ⟨layout, written, rfl⟩ := Program.reads_iff.mp reads
    exact ⟨layout, written, Extras.settingsAmong_getD_iff.mpr rfl⟩

theorem EventListener.lineSets_iff {line : Text} {listener : EventListener}
    (reads : EventListener.reader.Reads line listener) {settings : List (Text × Text)} :
    EventListener.LineSets line settings ↔ settings = listener.extras.pairs := by
  constructor
  · rintro ⟨layout, written, among⟩
    have same : layout.listener = listener :=
      Reader.Reads.unique (EventListener.reads_iff.mpr ⟨layout, written, rfl⟩) reads
    rw [← same]
    exact Extras.settingsAmong_getD_iff.mp among
  · rintro rfl
    obtain ⟨layout, written, rfl⟩ := EventListener.reads_iff.mp reads
    exact ⟨layout, written, Extras.settingsAmong_getD_iff.mpr rfl⟩

end Supervision
