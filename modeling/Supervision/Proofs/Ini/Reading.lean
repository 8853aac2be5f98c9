import Supervision.Ini
import Supervision.Proofs.Text.Words

/-!
A reader for documents: it takes the text apart at empty lines, and each line at its first space.
What it reads from the text of a document is that document, unless a key, a header or a value
stands in the way.
-/

namespace Supervision.Ini

open Text

/-- The lines of a text, each of which a line feed ends. -/
def endedLines (text : Text) : List Text :=
  (splitWhere (· = '\n') text).dropLast

def readHeader : Text → Option Text
  | '[' :: rest => if rest.getLast? = some ']' then some rest.dropLast else none
  | _ => none

/-- A key up to the first space, an equals sign, and the value after another space. -/
def readEntry (line : Text) : Option (Text × Text) :=
  match splitOnce ' ' line with
  | some (key, ['=']) => some (key, [])
  | some (key, '=' :: ' ' :: value) => some (key, value)
  | _ => none

def Section.read : List Text → Option Section
  | [] => none
  | header :: entries => do
      let header ← readHeader header
      let entries ← entries.mapM readEntry
      return { header, entries }

def Document.read (text : Text) : Option Document := do
  let sections ← ((endedLines text).splitOn []).mapM Section.read
  return ⟨sections⟩

def PlainEntry (entry : Text × Text) : Prop :=
  ' ' ∉ entry.1 ∧ '\n' ∉ entry.1 ∧ '\n' ∉ entry.2

structure Section.Plain (block : Section) : Prop where
  header : '\n' ∉ block.header
  entries : ∀ entry ∈ block.entries, PlainEntry entry

theorem readHeader_headerLine (header : Text) : readHeader (headerLine header) = some header := by
  simp [headerLine, readHeader]

theorem readEntry_entryLine {entry : Text × Text} (plain : PlainEntry entry) :
    readEntry (entryLine entry) = some entry := by
  obtain ⟨key, value⟩ := entry
  obtain ⟨spaceless, -, -⟩ := plain
  cases value with
  | nil =>
      have cut : splitOnce ' ' (key ++ " =".toList) = some (key, ['=']) :=
        splitOnce_eq_some_iff.mpr ⟨spaceless, rfl⟩
      simp only [readEntry, entryLine, List.isEmpty_nil, if_true, cut]
  | cons c value =>
      have cut : splitOnce ' ' (key ++ " = ".toList ++ c :: value) =
          some (key, '=' :: ' ' :: c :: value) :=
        splitOnce_eq_some_iff.mpr ⟨spaceless, by simp⟩
      simp only [readEntry, entryLine, List.isEmpty_cons, Bool.false_eq_true, if_false, cut]

theorem newline_not_mem_entryLine {entry : Text × Text} (plain : PlainEntry entry) :
    '\n' ∉ entryLine entry := by
  obtain ⟨-, inKey, inValue⟩ := plain
  unfold entryLine
  split <;> simp [inKey, inValue]

theorem allBlank_entryLine (entry : Text × Text) : allBlank (entryLine entry) = false := by
  have equals : '=' ∈ entryLine entry := by
    unfold entryLine
    split <;> simp
  exact List.all_eq_false.mpr ⟨'=', equals, by decide⟩

theorem mapM_map_eq_some {α β : Type} {write : α → β} {read : β → Option α} {items : List α}
    (back : ∀ item ∈ items, read (write item) = some item) :
    (items.map write).mapM read = some items := by
  induction items with
  | nil => rfl
  | cons first items ih =>
      obtain ⟨here, later⟩ := List.forall_mem_cons.mp back
      rw [List.map_cons, List.mapM_cons, here, ih later]
      rfl

/-! Sections. -/

namespace Section

def lines (block : Section) : List Text :=
  headerLine block.header :: block.entries.map entryLine

theorem lines_ne_nil (block : Section) : block.lines ≠ [] :=
  List.cons_ne_nil _ _

theorem allBlank_of_mem_lines (block : Section) :
    ∀ line ∈ block.lines, allBlank line = false := by
  intro line member
  rcases List.mem_cons.mp member with rfl | isEntry
  · exact List.all_eq_false.mpr ⟨'[', List.mem_cons_self, by decide⟩
  · obtain ⟨entry, -, rfl⟩ := List.mem_map.mp isEntry
    exact allBlank_entryLine entry

theorem nil_not_mem_lines (block : Section) : [] ∉ block.lines :=
  fun member => Bool.false_ne_true (block.allBlank_of_mem_lines [] member).symm

variable {block : Section}

theorem Plain.newline_not_mem (plain : block.Plain) : ∀ line ∈ block.lines, '\n' ∉ line := by
  intro line member
  rcases List.mem_cons.mp member with rfl | isEntry
  · simp [headerLine, plain.header]
  · obtain ⟨entry, inside, rfl⟩ := List.mem_map.mp isEntry
    exact newline_not_mem_entryLine (plain.entries entry inside)

theorem Plain.read_lines (plain : block.Plain) : Section.read block.lines = some block := by
  have entries := mapM_map_eq_some fun entry member => readEntry_entryLine (plain.entries entry member)
  rw [lines, Section.read, readHeader_headerLine, entries]
  rfl

end Section

/-! Documents. -/

namespace Document

def lines (document : Document) : List Text :=
  [[]].intercalate (document.sections.map Section.lines)

theorem text_eq (document : Document) :
    document.text = document.lines.flatMap fun line => line ++ ['\n'] := by
  obtain ⟨sections⟩ := document
  unfold text lines joinWith
  induction sections with
  | nil => rfl
  | cons block sections ih =>
      cases sections with
      | nil => simp only [List.map_cons, List.map_nil, List.intercalate_singleton]; rfl
      | cons second sections =>
          simp only [List.map_cons, List.intercalate_cons_cons, List.flatMap_append] at ih ⊢
          rw [ih]
          rfl

theorem lines_cons_cons (first second : Section) (sections : List Section) :
    lines ⟨first :: second :: sections⟩ = first.lines ++ [] :: lines ⟨second :: sections⟩ := by
  simp [lines, List.intercalate_cons_cons]

theorem lines_singleton (block : Section) : lines ⟨[block]⟩ = block.lines :=
  List.intercalate_singleton

theorem mem_lines {document : Document} {line : Text} (member : line ∈ document.lines) :
    line = [] ∨ ∃ block ∈ document.sections, line ∈ block.lines := by
  obtain ⟨sections⟩ := document
  induction sections with
  | nil => simp [lines] at member
  | cons first sections ih =>
      cases sections with
      | nil =>
          rw [lines_singleton] at member
          exact Or.inr ⟨first, List.mem_cons_self, member⟩
      | cons second sections =>
          rw [lines_cons_cons, List.mem_append, List.mem_cons] at member
          rcases member with here | empty | later
          · exact Or.inr ⟨first, List.mem_cons_self, here⟩
          · exact Or.inl empty
          · rcases ih later with empty | ⟨block, inside, found⟩
            · exact Or.inl empty
            · exact Or.inr ⟨block, List.mem_cons_of_mem _ inside, found⟩

theorem splitWhere_flatMap {lines : List Text} (single : ∀ line ∈ lines, '\n' ∉ line) :
    splitWhere (· = '\n') (lines.flatMap fun line => line ++ ['\n']) = lines ++ [[]] := by
  induction lines with
  | nil => rfl
  | cons line lines ih =>
      obtain ⟨here, later⟩ := List.forall_mem_cons.mp single
      have uncut : splitWhere (· = '\n') line = [line] :=
        splitWhere_eq_singleton fun c member => by
          simpa using fun same : c = '\n' => here (same ▸ member)
      rw [List.flatMap_cons, List.append_assoc, List.singleton_append,
        splitWhere_append (by simp), uncut, ih later]
      rfl

variable {document : Document}

theorem newline_not_mem_lines (plain : ∀ block ∈ document.sections, block.Plain) :
    ∀ line ∈ document.lines, '\n' ∉ line := by
  intro line member
  rcases mem_lines member with rfl | ⟨block, inside, found⟩
  · exact List.not_mem_nil
  · exact (plain block inside).newline_not_mem line found

theorem splitWhere_text (plain : ∀ block ∈ document.sections, block.Plain) :
    splitWhere (· = '\n') document.text = document.lines ++ [[]] := by
  rw [text_eq, splitWhere_flatMap (newline_not_mem_lines plain)]

theorem endedLines_text (plain : ∀ block ∈ document.sections, block.Plain) :
    endedLines document.text = document.lines := by
  rw [endedLines, splitWhere_text plain, List.dropLast_concat]

theorem read_text (plain : ∀ block ∈ document.sections, block.Plain)
    (nonempty : document.sections ≠ []) : Document.read document.text = some document := by
  -- No line of a section is empty: what the empty lines separate are the sections again.
  have apart : document.lines.splitOn [] = document.sections.map Section.lines := by
    refine List.splitOn_intercalate [] ?_ (by simpa using nonempty)
    intro lines member
    obtain ⟨block, -, rfl⟩ := List.mem_map.mp member
    exact block.nil_not_mem_lines
  rw [Document.read, endedLines_text plain, apart,
    mapM_map_eq_some fun block inside => (plain block inside).read_lines]
  rfl

theorem countP_allBlank_lines (document : Document) :
    document.lines.countP allBlank = document.sections.length - 1 := by
  obtain ⟨sections⟩ := document
  induction sections with
  | nil => rfl
  | cons first sections ih =>
      have none : first.lines.countP allBlank = 0 :=
        List.countP_eq_zero.mpr fun line member =>
          Bool.eq_false_iff.mp (first.allBlank_of_mem_lines line member)
      cases sections with
      | nil => rw [lines_singleton, none]; rfl
      | cons second sections =>
          rw [lines_cons_cons, List.countP_append, none, List.countP_cons_of_pos rfl, ih]
          simp

theorem exists_lines_eq_concat (nonempty : document.sections ≠ []) :
    ∃ front, ∃ block ∈ document.sections, ∃ last ∈ block.lines,
      document.lines = front ++ [last] := by
  obtain ⟨sections⟩ := document
  induction sections with
  | nil => exact absurd rfl nonempty
  | cons first sections ih =>
      cases sections with
      | nil =>
          refine ⟨first.lines.dropLast, first, List.mem_cons_self,
            first.lines.getLast first.lines_ne_nil, List.getLast_mem _, ?_⟩
          rw [lines_singleton, List.dropLast_append_getLast]
      | cons second sections =>
          obtain ⟨front, block, inside, last, member, equal⟩ := ih (List.cons_ne_nil _ _)
          refine ⟨first.lines ++ [] :: front, block, List.mem_cons_of_mem _ inside, last, member, ?_⟩
          rw [lines_cons_cons, equal]
          simp

theorem exists_text_eq_concat (plain : ∀ block ∈ document.sections, block.Plain)
    (nonempty : document.sections ≠ []) :
    ∃ front, document.text = front ++ ['\n'] ∧ front.getLast? ≠ some '\n' := by
  obtain ⟨front, block, inside, last, member, equal⟩ := exists_lines_eq_concat nonempty
  have lastNonempty : last ≠ [] := fun empty => block.nil_not_mem_lines (empty ▸ member)
  refine ⟨(front.flatMap fun line => line ++ ['\n']) ++ last, ?_, ?_⟩
  · rw [text_eq, equal]
    simp
  · intro ended
    rw [List.getLast?_append_of_ne_nil _ lastNonempty] at ended
    exact (plain block inside).newline_not_mem last member (List.mem_of_getLast? ended)

end Document

end Supervision.Ini
