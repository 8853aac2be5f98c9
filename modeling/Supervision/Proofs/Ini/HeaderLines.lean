import Supervision.Proofs.Ini.Reading
import Supervision.Proofs.Text.Lines

/-!
Which lines of a document read as the header of a section: those of the headers, and those of the
entries that begin and end as a header does.
-/

namespace Supervision

open Text

namespace Ini

def isHeaderLine (line : Text) : Bool :=
  line.head? == some '[' && line.getLast? == some ']'

/-- The line of such an entry reads as a header. -/
def opensSection (entry : Text × Text) : Bool :=
  entry.1.head? == some '[' && entry.2.getLast? == some ']'

def Section.openers (block : Section) : List (Text × Text) :=
  block.entries.filter opensSection

theorem isHeaderLine_headerLine (header : Text) : isHeaderLine (headerLine header) = true := by
  have last : (headerLine header).getLast? = some ']' := List.getLast?_concat
  rw [isHeaderLine, last]
  rfl

theorem head?_entryLine (entry : Text × Text) :
    (entryLine entry).head? = some (entry.1.head?.getD ' ') := by
  obtain ⟨key, value⟩ := entry
  unfold entryLine
  cases key <;> split <;> rfl

theorem isHeaderLine_entryLine (entry : Text × Text) :
    isHeaderLine (entryLine entry) = opensSection entry := by
  have first : ((entryLine entry).head? == some '[') = (entry.1.head? == some '[') := by
    rw [head?_entryLine]
    cases entry.1.head? <;> rfl
  have last : ((entryLine entry).getLast? == some ']') = (entry.2.getLast? == some ']') := by
    obtain ⟨key, value⟩ := entry
    unfold entryLine
    cases value with
    | nil => simp
    | cons c value => simp
  rw [isHeaderLine, opensSection, first, last]

theorem Section.filter_lines (block : Section) :
    block.lines.filter isHeaderLine =
      headerLine block.header :: block.openers.map entryLine := by
  have same : isHeaderLine ∘ entryLine = opensSection := funext isHeaderLine_entryLine
  rw [lines, List.filter_cons_of_pos (isHeaderLine_headerLine _), List.filter_map, same, openers]

namespace Document

variable {document : Document}

theorem filter_lines (document : Document) :
    document.lines.filter isHeaderLine =
      document.sections.flatMap fun block =>
        headerLine block.header :: block.openers.map entryLine := by
  obtain ⟨sections⟩ := document
  induction sections with
  | nil => rfl
  | cons first sections ih =>
      cases sections with
      | nil => simp [lines_singleton, Section.filter_lines]
      | cons second sections =>
          rw [lines_cons_cons, List.filter_append, List.flatMap_cons, Section.filter_lines]
          exact congrArg _ ih

theorem lines_text (plain : ∀ block ∈ document.sections, block.Plain) :
    Text.lines document.text = document.lines.map dropReturn := by
  rw [Text.lines, splitWhere_text plain, endLines_concat_nil]

/-- A line that begins as a header does has no carriage return to lose. -/
def Returnless (document : Document) : Prop :=
  ∀ line ∈ document.lines, line.head? = some '[' → '\r' ∉ line

theorem filter_map_dropReturn {lines : List Text}
    (returnless : ∀ line ∈ lines, line.head? = some '[' → '\r' ∉ line) :
    (lines.map dropReturn).filter isHeaderLine = lines.filter isHeaderLine := by
  induction lines with
  | nil => rfl
  | cons line lines ih =>
      obtain ⟨here, later⟩ := List.forall_mem_cons.mp returnless
      by_cases opens : line.head? = some '['
      · have kept : dropReturn line = line :=
          dropReturn_eq_self fun returned => here opens (List.mem_of_getLast? returned)
        rw [List.map_cons, kept, List.filter_cons, List.filter_cons, ih later]
      · have other : isHeaderLine line = false := by simp [isHeaderLine, opens]
        have otherDropped : isHeaderLine (dropReturn line) = false := by
          simp [isHeaderLine, mt head?_of_head?_dropReturn opens]
        rw [List.map_cons, List.filter_cons_of_neg (by simp [otherDropped]),
          List.filter_cons_of_neg (by simp [other]), ih later]

theorem filter_lines_text (plain : ∀ block ∈ document.sections, block.Plain)
    (returnless : document.Returnless) :
    (Text.lines document.text).filter isHeaderLine =
      document.sections.flatMap fun block =>
        headerLine block.header :: block.openers.map entryLine := by
  rw [lines_text plain, filter_map_dropReturn returnless, filter_lines]

end Document

theorem length_le_length_flatMap_cons {α β : Type} (first : α → β) (others : α → List β)
    (items : List α) :
    items.length ≤ (items.flatMap fun item => first item :: others item).length := by
  induction items with
  | nil => exact Nat.le_refl _
  | cons item items ih =>
      simp only [List.flatMap_cons, List.length_append, List.length_cons]
      omega

theorem flatMap_openers_eq_iff {sections : List Section} :
    (sections.flatMap fun block => headerLine block.header :: block.openers.map entryLine) =
        (sections.map Section.header).map headerLine ↔
      ∀ block ∈ sections, block.openers = [] := by
  induction sections with
  | nil => simp
  | cons block sections ih =>
      rw [List.flatMap_cons, List.map_cons, List.map_cons, List.cons_append, List.cons.injEq,
        List.forall_mem_cons, ← ih]
      constructor
      · rintro ⟨-, same⟩
        -- The other sections have at least as many lines as headers, which leaves none for this one.
        have enough := length_le_length_flatMap_cons (fun block => headerLine block.header)
          (fun block => block.openers.map entryLine) sections
        have counted := congrArg List.length same
        simp only [List.length_append, List.length_map] at counted
        have none : block.openers = [] := List.eq_nil_of_length_eq_zero (by omega)
        rw [none] at same
        exact ⟨none, same⟩
      · rintro ⟨none, same⟩
        rw [none]
        exact ⟨rfl, same⟩

end Ini

end Supervision
