import Supervision.Proofs.Record.Layout

/-!
Which lines are those of event listeners and of plugins, what is read from them, and how all other
lines fail.
-/

namespace Supervision

open Text Reader

theorem Text.Word.gap_of_startsBlank {blanks word rest : Text} (ink : Word word)
    (uniform : ∀ c ∈ blanks, isBlank c = true) (stops : StartsBlank (blanks ++ word ++ rest)) :
    Gap blanks := by
  refine ⟨?_, uniform⟩
  rintro rfl
  obtain ⟨nonempty, allInk⟩ := ink
  cases word with
  | nil => exact nonempty rfl
  | cons c word =>
      have blank : isInk c = false := stops c rfl
      rw [allInk c List.mem_cons_self] at blank
      cases blank

theorem Plugin.reads_iff_words {line : Text} {plugin : Plugin} :
    Plugin.reader.Reads line plugin ↔ words line = [plugin.name, plugin.callable] := by
  rw [Plugin.reads_iff, ← words_trim]
  constructor
  · rintro ⟨layout, ⟨blanks, gapped, equal⟩, rfl⟩
    rw [equal, List.append_assoc, layout.name_word.words_append (gapped.startsBlank _),
      gapped.words_append, layout.callable_word.words_eq]
    rfl
  · intro both
    obtain ⟨front, _, frontBlank, nameWord, stops, whole, onwards⟩ := words_eq_cons_iff.mp both
    obtain ⟨blanks, back, uniform, callableWord, -, rfl, none⟩ := words_eq_cons_iff.mp onwards
    -- The line is trimmed, so that there are no blanks at its ends.
    have fromFront : trim line = front ++ (plugin.name ++ (blanks ++ plugin.callable ++ back)) := by
      rw [whole, List.append_assoc]
    obtain rfl := eq_nil_of_trim_eq_blanks_append fromFront (allBlank_iff.mpr frontBlank)
    have fromBack : trim line = plugin.name ++ (blanks ++ plugin.callable) ++ back := by
      simpa using whole
    obtain rfl := eq_nil_of_trim_eq_append fromBack (words_eq_nil_iff.mp none)
    have gapped : Gap blanks := callableWord.gap_of_startsBlank uniform stops
    refine ⟨⟨plugin.name, plugin.callable, nameWord, callableWord⟩, ⟨blanks, gapped, ?_⟩, rfl⟩
    simpa using whole

theorem Plugin.exists_reads_iff {line : Text} :
    (∃ plugin, Plugin.reader.Reads line plugin) ↔ (words line).length = 2 := by
  simp only [reads_iff_words, List.length_eq_two]
  constructor
  · rintro ⟨plugin, both⟩
    exact ⟨plugin.name, plugin.callable, both⟩
  · rintro ⟨name, callable, both⟩
    exact ⟨⟨name, callable⟩, both⟩

/-- The grammar of event listener lines and that of plugin lines, exact in both directions: an event
listener is what its line is written as, a plugin is a line of two words, and every other line is
the malformed one of the error, as it is. -/
theorem readLine_listener_plugin_iff (kind : RecordKind) (number : Nat) (line : Text) :
    (∀ listener, readLine EventListener.reader kind number line = .ok listener ↔
      ∃ layout : ListenerLayout, layout.Written (trim line) ∧ layout.listener = listener) ∧
    (∀ error, readLine EventListener.reader kind number line = .error error ↔
      (∀ layout : ListenerLayout, ¬layout.Written (trim line)) ∧
        error = .malformedLine kind number line) ∧
    (∀ plugin, readLine Plugin.reader kind number line = .ok plugin ↔
      words line = [plugin.name, plugin.callable]) ∧
    (∀ error, readLine Plugin.reader kind number line = .error error ↔
      (words line).length ≠ 2 ∧ error = .malformedLine kind number line) := by
  refine ⟨?_, ?_, ?_, ?_⟩
  · intro listener
    exact readLine_eq_ok_iff.trans EventListener.reads_iff
  · intro error
    rw [readLine_eq_error_iff]
    simp only [EventListener.reads_iff, not_exists, not_and]
    refine and_congr_left fun _ => ?_
    constructor
    · intro refused layout written
      exact refused layout.listener layout written rfl
    · intro unwritten _ layout written _
      exact unwritten layout written
  · intro plugin
    exact readLine_eq_ok_iff.trans Plugin.reads_iff_words
  · intro error
    rw [readLine_eq_error_iff, ← not_exists, Plugin.exists_reads_iff]

end Supervision
