import Supervision.Proofs.Record.Field
import Supervision.Proofs.Record.Line
import Supervision.Record.EventListener
import Supervision.Record.Plugin

/-!
Lines of event listeners, groups and plugins as they are written, and the records they are.
-/

namespace Supervision

open Text Reader RecordField

/-! Event listeners. -/

/-- The texts of an event listener line. -/
structure ListenerLayout where
  name : Text
  settings : Option Text
  events : Text
  command : Text
  arguments : Option Text
  name_word : Word name
  events_word : Word events
  command_word : Word command

namespace ListenerLayout

def Written (layout : ListenerLayout) (text : Text) : Prop :=
  ∃ settings firstGap secondGap arguments,
    Bracketed '(' ')' layout.settings settings ∧ Gap firstGap ∧ Gap secondGap ∧
      Bracketed '[' ']' layout.arguments arguments ∧
      (layout.settings = none →
        ¬Opens '(' ')' (layout.events ++ secondGap ++ layout.command ++ arguments)) ∧
      text = layout.name ++ settings ++ firstGap ++ layout.events ++ secondGap ++
        layout.command ++ arguments

def listener (layout : ListenerLayout) : EventListener where
  name := layout.name
  events := layout.events
  command := layout.command
  arguments := layout.arguments
  extras := (layout.settings.map Extras.parse).getD Extras.empty

end ListenerLayout

theorem EventListener.reader_eq_some_iff {text : Text} {listener : EventListener} :
    EventListener.reader text = some (listener, []) ↔
      ∃ layout : ListenerLayout, layout.Written text ∧ layout.listener = listener := by
  simp only [EventListener.reader, bind_eq_some_iff, pure_eq_some_iff]
  constructor
  · rintro ⟨name, afterName, nameTaken, extras, afterSettings, settingsTaken, _, atEvents,
      firstTaken, events, afterEvents, eventsTaken, _, atCommand, secondTaken, command,
      afterCommand, commandTaken, arguments, rest, argumentsTaken, rfl, rfl⟩
    obtain ⟨nameNonempty, nameInk, rfl, -⟩ := word_eq_some_iff.mp nameTaken
    obtain ⟨block, settings, firstGap, settingsWritten, firstGapped, -, rfl, unopened, rfl⟩ :=
      settings_gap_iff.mp ⟨afterSettings, settingsTaken, firstTaken⟩
    obtain ⟨eventsNonempty, eventsInk, rfl, -⟩ := word_eq_some_iff.mp eventsTaken
    obtain ⟨secondGap, secondNonempty, secondBlank, rfl, -⟩ := gap_eq_some_iff.mp secondTaken
    obtain ⟨commandNonempty, commandInk, rfl, -⟩ := word_eq_some_iff.mp commandTaken
    obtain ⟨argumentsText, argumentsWritten, rfl, -⟩ :=
      (maybe_delimited_eq_some_iff (by decide)).mp argumentsTaken
    refine ⟨{
      name, settings := block, events, command, arguments
      name_word := ⟨nameNonempty, nameInk⟩
      events_word := ⟨eventsNonempty, eventsInk⟩
      command_word := ⟨commandNonempty, commandInk⟩ }, ?_, rfl⟩
    exact ⟨settings, firstGap, secondGap, argumentsText, settingsWritten, firstGapped,
      ⟨secondNonempty, secondBlank⟩, argumentsWritten, by simpa using unopened, by simp⟩
  · rintro ⟨layout, ⟨settings, firstGap, secondGap, arguments, settingsWritten, firstGapped,
      secondGapped, argumentsWritten, unopened, rfl⟩, rfl⟩
    have eventsInk := startsInk_word_append layout.events_word
      (secondGap ++ (layout.command ++ arguments))
    have afterName : StartsBlank (settings ++ firstGap ++
        (layout.events ++ (secondGap ++ (layout.command ++ arguments)))) := by
      rw [List.append_assoc]
      exact settingsWritten.startsBlank (firstGapped.startsBlank _)
    have afterEvents := secondGapped.startsBlank (layout.command ++ arguments)
    have afterCommand : StartsBlank arguments := by
      have stops := argumentsWritten.startsBlank startsBlank_nil
      rwa [List.append_nil] at stops
    have nameRead := word_append layout.name_word afterName
    obtain ⟨middle, settingsRead, firstRead⟩ := settings_gap_iff.mpr
      ⟨layout.settings, settings, firstGap, settingsWritten, firstGapped, eventsInk, rfl,
        by simpa using unopened, rfl⟩
    have eventsRead := word_append layout.events_word afterEvents
    have secondRead := gap_append secondGapped (startsInk_word_append layout.command_word arguments)
    have commandRead := word_append layout.command_word afterCommand
    have nothingLeft : spaced (delimited '[' ']') [] = none := rfl
    have argumentsRead := arguments_append argumentsWritten nothingLeft
    rw [List.append_nil] at argumentsRead
    have whole : layout.name ++ settings ++ firstGap ++ layout.events ++ secondGap ++
        layout.command ++ arguments = layout.name ++ (settings ++ firstGap ++
          (layout.events ++ (secondGap ++ (layout.command ++ arguments)))) := by simp
    rw [whole]
    exact ⟨layout.name, _, nameRead, _, middle, settingsRead, (), _, firstRead,
      layout.events, _, eventsRead, (), _, secondRead, layout.command, _, commandRead,
      layout.arguments, _, argumentsRead, rfl, rfl⟩

theorem EventListener.reads_iff {line : Text} {listener : EventListener} :
    EventListener.reader.Reads line listener ↔
      ∃ layout : ListenerLayout, layout.Written (trim line) ∧ layout.listener = listener := by
  have conserves : Conserves EventListener.reader :=
    conserves_word.bind fun _ => conserves_settings.bind fun _ => conserves_gap.bind fun _ =>
      conserves_word.bind fun _ => conserves_gap.bind fun _ => conserves_word.bind fun _ =>
        conserves_arguments.bind fun _ => conserves_pure _
  exact conserves.reads_iff.trans reader_eq_some_iff

/-! Groups. -/

structure GroupLayout where
  priority : Text
  name : Text
  listed : Text
  priority_word : Word priority
  priority_digits : ∀ c ∈ priority, c.isDigit = true
  name_word : Word name
  listed_ink : StartsInk listed
  listed_members : runs Group.separates listed ≠ []

namespace GroupLayout

def Written (layout : GroupLayout) (text : Text) : Prop :=
  ∃ firstGap secondGap, Gap firstGap ∧ Gap secondGap ∧
    text = layout.priority ++ firstGap ++ layout.name ++ secondGap ++ layout.listed

def group (layout : GroupLayout) : Group where
  priority := layout.priority
  name := layout.name
  members := runs Group.separates layout.listed

end GroupLayout

theorem Group.runs_trimEnd (text : Text) : runs separates (trimEnd text) = runs separates text := by
  obtain ⟨after, uniform, equal⟩ := exists_blanks_trimEnd text
  have cuts : ∀ c ∈ after, separates c = true := by
    intro c member
    simp [separates, uniform c member]
  calc runs separates (trimEnd text)
      = runs separates (trimEnd text ++ after) := (runs_append_cuts cuts _).symm
    _ = runs separates text := by rw [← equal]

theorem Group.membersReader_eq_some_iff {text rest : Text} {members : List Text} :
    membersReader text = some (members, rest) ↔
      runs separates text ≠ [] ∧ members = runs separates text ∧ rest = [] := by
  rw [← runs_trimEnd]
  unfold membersReader remainder
  cases trimmed : trimEnd text with
  | nil => simp [runs, splitWhere]
  | cons c others =>
      cases found : runs separates (c :: others) with
      | nil => simp [found]
      | cons first later => simp [found, eq_comm]

theorem Group.reader_eq_some_iff {text : Text} {group : Group} :
    Group.reader text = some (group, []) ↔
      ∃ layout : GroupLayout, layout.Written text ∧ layout.group = group := by
  simp only [Group.reader, bind_eq_some_iff, pure_eq_some_iff, membersReader_eq_some_iff]
  constructor
  · rintro ⟨priority, afterPriority, priorityTaken, _, atName, firstTaken, name, afterName,
      nameTaken, _, listed, secondTaken, members, rest, ⟨nonempty, rfl, rfl⟩, rfl, -⟩
    obtain ⟨digits, priorityWord, -, rfl⟩ := wordWhere_eq_some_iff.mp priorityTaken
    obtain ⟨firstGap, firstNonempty, firstBlank, rfl, -⟩ := gap_eq_some_iff.mp firstTaken
    obtain ⟨nameNonempty, nameInk, rfl, -⟩ := word_eq_some_iff.mp nameTaken
    obtain ⟨secondGap, secondNonempty, secondBlank, rfl, starts⟩ := gap_eq_some_iff.mp secondTaken
    refine ⟨{
      priority, name, listed
      priority_word := priorityWord
      priority_digits := fun c member => List.all_eq_true.mp digits c member
      name_word := ⟨nameNonempty, nameInk⟩
      listed_ink := starts
      listed_members := nonempty }, ?_, rfl⟩
    exact ⟨firstGap, secondGap, ⟨firstNonempty, firstBlank⟩, ⟨secondNonempty, secondBlank⟩, by simp⟩
  · rintro ⟨layout, ⟨firstGap, secondGap, firstGapped, secondGapped, rfl⟩, rfl⟩
    have priorityRead := digits_append layout.priority_word layout.priority_digits
      (firstGapped.startsBlank (layout.name ++ (secondGap ++ layout.listed)))
    have firstRead := gap_append firstGapped
      (startsInk_word_append layout.name_word (secondGap ++ layout.listed))
    have nameRead := word_append layout.name_word (secondGapped.startsBlank layout.listed)
    have secondRead := gap_append secondGapped layout.listed_ink
    have whole : layout.priority ++ firstGap ++ layout.name ++ secondGap ++ layout.listed =
        layout.priority ++ (firstGap ++ (layout.name ++ (secondGap ++ layout.listed))) := by simp
    rw [whole]
    exact ⟨layout.priority, _, priorityRead, (), _, firstRead, layout.name, _, nameRead,
      (), _, secondRead, _, _, ⟨layout.listed_members, rfl, rfl⟩, rfl, rfl⟩

theorem Group.reads_iff {line : Text} {group : Group} :
    Group.reader.Reads line group ↔
      ∃ layout : GroupLayout, layout.Written (trim line) ∧ layout.group = group := by
  have members : Conserves membersReader := by
    intro text found rest taken
    obtain ⟨-, -, rfl⟩ := membersReader_eq_some_iff.mp taken
    exact List.nil_suffix
  have conserves : Conserves Group.reader :=
    (conserves_wordWhere _).bind fun _ => conserves_gap.bind fun _ => conserves_word.bind fun _ =>
      conserves_gap.bind fun _ => members.bind fun _ => conserves_pure _
  exact conserves.reads_iff.trans reader_eq_some_iff

/-! Plugins. -/

structure PluginLayout where
  name : Text
  callable : Text
  name_word : Word name
  callable_word : Word callable

namespace PluginLayout

def Written (layout : PluginLayout) (text : Text) : Prop :=
  ∃ blanks, Gap blanks ∧ text = layout.name ++ blanks ++ layout.callable

def plugin (layout : PluginLayout) : Plugin where
  name := layout.name
  callable := layout.callable

end PluginLayout

theorem Plugin.reader_eq_some_iff {text : Text} {plugin : Plugin} :
    Plugin.reader text = some (plugin, []) ↔
      ∃ layout : PluginLayout, layout.Written text ∧ layout.plugin = plugin := by
  simp only [Plugin.reader, bind_eq_some_iff, pure_eq_some_iff]
  constructor
  · rintro ⟨name, afterName, nameTaken, _, atCallable, gapTaken, callable, rest, callableTaken,
      rfl, rfl⟩
    obtain ⟨nameNonempty, nameInk, rfl, -⟩ := word_eq_some_iff.mp nameTaken
    obtain ⟨blanks, nonempty, blank, rfl, -⟩ := gap_eq_some_iff.mp gapTaken
    obtain ⟨callableNonempty, callableInk, rfl, -⟩ := word_eq_some_iff.mp callableTaken
    exact ⟨⟨name, callable, ⟨nameNonempty, nameInk⟩, ⟨callableNonempty, callableInk⟩⟩,
      ⟨blanks, ⟨nonempty, blank⟩, by simp⟩, rfl⟩
  · rintro ⟨layout, ⟨blanks, gapped, rfl⟩, rfl⟩
    have whole := word_append layout.callable_word startsBlank_nil
    rw [List.append_nil] at whole
    rw [List.append_assoc]
    exact ⟨layout.name, _, word_append layout.name_word (gapped.startsBlank _), (), _,
      gap_append gapped (by simpa using startsInk_word_append layout.callable_word []),
      layout.callable, _, whole, rfl, rfl⟩

theorem Plugin.reads_iff {line : Text} {plugin : Plugin} :
    Plugin.reader.Reads line plugin ↔
      ∃ layout : PluginLayout, layout.Written (trim line) ∧ layout.plugin = plugin := by
  have conserves : Conserves Plugin.reader :=
    conserves_word.bind fun _ => conserves_gap.bind fun _ => conserves_word.bind fun _ =>
      conserves_pure _
  exact conserves.reads_iff.trans reader_eq_some_iff

end Supervision
