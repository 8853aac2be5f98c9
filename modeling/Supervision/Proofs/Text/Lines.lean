import Supervision.Proofs.Text.Words

/-!
Lines of a text: what is left of a line when its end is taken away, and how the lines of two texts
stand one after the other.
-/

namespace Supervision.Text

/-! Carriage returns at the ends of lines. -/

theorem dropReturn_append_return (line : Text) : dropReturn (line ++ ['\r']) = line := by
  induction line with
  | nil => rfl
  | cons c line ih =>
      rw [List.cons_append, dropReturn, ih]
      rintro rfl empty
      exact absurd empty (by simp)

theorem dropReturn_eq_self {line : Text} (unreturned : line.getLast? ≠ some '\r') :
    dropReturn line = line := by
  induction line using dropReturn.induct with
  | case1 => rfl
  | case2 => exact absurd rfl unreturned
  | case3 c rest notReturn ih =>
      rw [dropReturn]
      · cases rest with
        | nil => rfl
        | cons d rest => rw [ih (by rwa [List.getLast?_cons_cons] at unreturned)]
      · exact notReturn

theorem eq_dropReturn_append (line : Text) :
    line = dropReturn line ∨ line = dropReturn line ++ ['\r'] := by
  by_cases returned : line.getLast? = some '\r'
  · obtain ⟨front, rfl⟩ := List.getLast?_eq_some_iff.mp returned
    exact Or.inr (by rw [dropReturn_append_return])
  · exact Or.inl (dropReturn_eq_self returned).symm

theorem mem_of_mem_dropReturn {line : Text} {c : Char} (member : c ∈ dropReturn line) : c ∈ line := by
  rcases eq_dropReturn_append line with same | returned
  · rwa [same]
  · rw [returned]
    exact List.mem_append_left _ member

theorem head?_of_head?_dropReturn {line : Text} {c : Char}
    (head : (dropReturn line).head? = some c) : line.head? = some c := by
  rcases eq_dropReturn_append line with same | returned
  · rwa [same]
  · rw [returned, List.head?_append, head]
    rfl

theorem trim_dropReturn (line : Text) : trim (dropReturn line) = trim line := by
  rcases eq_dropReturn_append line with same | returned
  · rw [← same]
  · rw [returned, dropReturn_append_return, trim_append_blanks (by simp; decide)]

theorem allBlank_dropReturn (line : Text) : allBlank (dropReturn line) = allBlank line := by
  rw [Bool.eq_iff_iff, ← trim_eq_nil_iff, ← trim_eq_nil_iff, trim_dropReturn]

/-! Lines and the pieces they are made of. -/

theorem mem_endLines {pieces : List Text} {line : Text} {c : Char}
    (found : line ∈ endLines pieces) (member : c ∈ line) : ∃ piece ∈ pieces, c ∈ piece := by
  induction pieces with
  | nil => simp [endLines] at found
  | cons piece pieces ih =>
      cases pieces with
      | nil =>
          simp only [endLines] at found
          split at found
          · simp at found
          · exact ⟨line, found, member⟩
      | cons second pieces =>
          simp only [endLines, List.mem_cons] at found
          rcases found with rfl | later
          · exact ⟨piece, List.mem_cons_self, mem_of_mem_dropReturn member⟩
          · obtain ⟨other, inside, here⟩ := ih later
            exact ⟨other, List.mem_cons_of_mem _ inside, here⟩

theorem newline_not_mem_of_mem_lines {text line : Text} (found : line ∈ lines text) :
    '\n' ∉ line := by
  intro member
  obtain ⟨piece, inside, here⟩ := mem_endLines found member
  simpa using (mem_splitWhere inside here).2

theorem endLines_append {pieces others : List Text} (nonempty : others ≠ []) :
    endLines (pieces ++ others) = pieces.map dropReturn ++ endLines others := by
  induction pieces with
  | nil => rfl
  | cons piece pieces ih =>
      rw [List.map_cons, List.cons_append, List.cons_append, ← ih]
      cases both : pieces ++ others with
      | nil => exact absurd (List.append_eq_nil_iff.mp both).2 nonempty
      | cons second rest => rfl

theorem endLines_concat_nil (pieces : List Text) :
    endLines (pieces ++ [[]]) = pieces.map dropReturn := by
  rw [endLines_append (by simp)]
  exact List.append_nil _

theorem lines_append (first second : Text) :
    lines (first ++ '\n' :: second) =
      (splitWhere (· = '\n') first).map dropReturn ++ lines second := by
  rw [lines, splitWhere_append (by simp), endLines_append (splitWhere_ne_nil _ _), lines]

/-- Texts that are joined by line feeds are the lines again, but for what lines lose at their ends. -/
theorem lines_joinWith {texts : List Text} (single : ∀ text ∈ texts, '\n' ∉ text) :
    lines (joinWith ['\n'] texts) = endLines texts := by
  cases texts with
  | nil => rfl
  | cons text texts =>
      rw [lines, splitWhere_eq_splitOn, joinWith, List.splitOn_intercalate _ single (by simp)]

theorem lines_eq_singleton {text : Text} (nonempty : text ≠ []) (single : '\n' ∉ text) :
    lines text = [text] := by
  have joined := lines_joinWith (List.forall_mem_singleton.mpr single)
  rw [joinWith, List.intercalate_singleton] at joined
  rw [joined, endLines, if_neg (by simpa using nonempty)]

theorem getElem?_endLines {pieces : List Text} {index : Nat} {line : Text} :
    (endLines pieces)[index]? = some line ↔
      ∃ piece, pieces[index]? = some piece ∧ (index + 1 = pieces.length → piece ≠ []) ∧
        (if index + 1 = pieces.length then piece else dropReturn piece) = line := by
  induction pieces generalizing index with
  | nil => simp [endLines]
  | cons piece pieces ih =>
      cases pieces with
      | nil => cases index <;> cases piece <;> simp [endLines]
      | cons second pieces => cases index <;> simp_all [endLines]

theorem exists_splitWhere_eq_concat (cut : Char → Bool) (text : Text) :
    ∃ front last, splitWhere cut text = front ++ [last] ∧ last <:+ text := by
  -- A text in one piece is that piece.
  suffices ∃ front last, splitWhere cut text = front ++ [last] ∧ last <:+ text ∧
      (front = [] → last = text) by
    obtain ⟨front, last, pieces, suffix, -⟩ := this
    exact ⟨front, last, pieces, suffix⟩
  induction text with
  | nil => exact ⟨[], [], rfl, List.nil_suffix, fun _ => rfl⟩
  | cons c text ih =>
      obtain ⟨front, last, pieces, suffix, whole⟩ := ih
      have later := suffix.trans (List.suffix_cons c text)
      simp only [splitWhere, pieces]
      split
      · exact ⟨[] :: front, last, rfl, later, by simp⟩
      · cases front with
        | nil =>
            obtain rfl := whole rfl
            exact ⟨[], c :: last, rfl, List.suffix_refl _, fun _ => rfl⟩
        | cons piece front => exact ⟨(c :: piece) :: front, last, rfl, later, by simp⟩

/-- The lines of a text, and the empty one that a line feed at its end leaves open. -/
theorem map_dropReturn_splitWhere {text : Text} (unreturned : text.getLast? ≠ some '\r') :
    (splitWhere (· = '\n') text).map dropReturn = lines text ∨
      (splitWhere (· = '\n') text).map dropReturn = lines text ++ [[]] := by
  obtain ⟨front, last, pieces, before, equal⟩ := exists_splitWhere_eq_concat (· = '\n') text
  have kept : dropReturn last = last := by
    refine dropReturn_eq_self fun returned => unreturned ?_
    rw [← equal, List.getLast?_append, returned]
    rfl
  rw [lines, pieces, endLines_append (by simp), List.map_append, List.map_singleton, kept]
  cases last with
  | nil => exact Or.inr (by simp [endLines])
  | cons c last => exact Or.inl rfl

end Supervision.Text
