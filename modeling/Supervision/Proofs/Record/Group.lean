import Supervision.Process
import Supervision.Proofs.Record.Layout

/-!
Group lines and the sections they become: which lines are those of groups, and that the members of a
group, joined by commas, are read back as the same members.
-/

namespace Supervision

open Text Reader

namespace Group

def IsLine (priority name listed text : Text) : Prop :=
  priority ≠ [] ∧ (∀ c ∈ priority, c.isDigit = true) ∧ Word name ∧
    ∃ firstGap secondGap, Gap firstGap ∧ Gap secondGap ∧
      text = priority ++ firstGap ++ name ++ secondGap ++ listed

theorem separates_eq_false {c : Char} : separates c = false ↔ c ≠ ',' ∧ isBlank c = false := by
  simp [separates]

/-- A line of a group lists its members between commas and blanks, at least one of them. -/
theorem reads_iff_isLine {line : Text} {group : Group} :
    Group.reader.Reads line group ↔
      ∃ listed, IsLine group.priority group.name listed (trim line) ∧ group.members ≠ [] ∧
        Runs separates listed group.members := by
  rw [reads_iff]
  constructor
  · rintro ⟨layout, ⟨firstGap, secondGap, firstGapped, secondGapped, equal⟩, rfl⟩
    exact ⟨layout.listed, ⟨layout.priority_word.1, layout.priority_digits, layout.name_word,
      firstGap, secondGap, firstGapped, secondGapped, equal⟩, layout.listed_members,
      runs_spec separates layout.listed⟩
  · obtain ⟨priority, name, members⟩ := group
    rintro ⟨listed, ⟨nonempty, digits, nameWord, firstGap, secondGap, firstGapped, secondGapped,
      equal⟩, someMember, told⟩
    obtain rfl := runs_eq_iff.mpr told
    -- Blanks at the front of the list belong to the gap before it.
    obtain ⟨blanks, uniform, front, starts⟩ := exists_blanks_trimStart listed
    have sameMembers : runs separates (trimStart listed) = runs separates listed := by
      have cuts : ∀ c ∈ blanks, separates c = true := fun c member => by
        simp [separates, uniform c member]
      rw [← runs_cuts_append cuts (trimStart listed), ← front]
    have gapped : Gap (secondGap ++ blanks) :=
      ⟨by simp [secondGapped.1], List.forall_mem_append.mpr ⟨secondGapped.2, uniform⟩⟩
    refine ⟨{
      priority, name
      listed := trimStart listed
      priority_word := ⟨nonempty, fun c member => isInk_of_isDigit (digits c member)⟩
      priority_digits := digits
      name_word := nameWord
      listed_ink := starts
      listed_members := sameMembers ▸ someMember }, ?_, ?_⟩
    · refine ⟨firstGap, secondGap ++ blanks, firstGapped, gapped, ?_⟩
      rw [equal]
      simpa using front
    · exact congrArg (Group.mk priority name) sameMembers

theorem exists_reads_iff {line : Text} :
    (∃ group, Group.reader.Reads line group) ↔
      ∃ priority name listed, IsLine priority name listed (trim line) ∧
        ∃ c ∈ listed, c ≠ ',' ∧ isBlank c = false := by
  simp only [reads_iff_isLine, ← separates_eq_false]
  constructor
  · rintro ⟨group, listed, isLine, someMember, told⟩
    refine ⟨group.priority, group.name, listed, isLine, ?_⟩
    by_contra none
    have cuts : ∀ c ∈ listed, separates c = true := by simpa using none
    rw [← runs_eq_iff.mpr told, runs_eq_nil_iff.mpr cuts] at someMember
    exact someMember rfl
  · rintro ⟨priority, name, listed, isLine, c, member, notCut⟩
    refine ⟨⟨priority, name, runs separates listed⟩, listed, isLine, ?_, runs_spec _ _⟩
    intro none
    rw [runs_eq_nil_iff.mp none c member] at notCut
    cases notCut

theorem uncut_of_reads {line : Text} {group : Group} (reads : Group.reader.Reads line group) :
    ∀ member ∈ group.members, member ≠ [] ∧ ∀ c ∈ member, separates c = false := by
  obtain ⟨listed, -, -, told⟩ := reads_iff_isLine.mp reads
  intro member found
  rw [← runs_eq_iff.mpr told] at found
  obtain ⟨nonempty, inside⟩ := mem_runs found
  exact ⟨nonempty, fun c inMember => (inside c inMember).2⟩

theorem get?_toSection_programs (group : Group) :
    group.toSection.get? "programs" = some (joinWith [','] group.members) :=
  rfl

theorem splitOn_joinWith_members {line : Text} {group : Group}
    (reads : Group.reader.Reads line group) :
    (joinWith [','] group.members).splitOn ',' = group.members := by
  obtain ⟨-, -, someMember, -⟩ := reads_iff_isLine.mp reads
  refine List.splitOn_intercalate ',' ?_ someMember
  intro member found comma
  exact (separates_eq_false.mp ((uncut_of_reads reads member found).2 ',' comma)).1 rfl

theorem trim_joined {priority name : Text} {members : List Text} (priorityWord : Word priority)
    (someMember : members ≠ [])
    (whole : ∀ member ∈ members, member ≠ [] ∧ ∀ c ∈ member, separates c = false) :
    trim (priority ++ ' ' :: name ++ ' ' :: joinWith [','] members) =
      priority ++ ' ' :: name ++ ' ' :: joinWith [','] members := by
  obtain ⟨front, last, rfl⟩ := (List.eq_nil_or_concat members).resolve_left someMember
  rw [List.concat_eq_append] at whole ⊢
  obtain ⟨nonempty, uncut⟩ := whole last (by simp)
  obtain ⟨before, ending⟩ := suffix_joinWith_concat [','] front last
  apply trim_eq_self
  · rw [List.append_assoc]
    exact startsInk_word_append priorityWord _
  · intro c isLast
    rw [← ending, ← List.cons_append, ← List.append_assoc,
      List.getLast?_append_of_ne_nil _ nonempty] at isLast
    exact (separates_eq_false.mp (uncut c (List.mem_of_getLast? isLast))).2

theorem reads_joined {line : Text} {group : Group} (reads : Group.reader.Reads line group) :
    Group.reader.Reads (group.priority ++ ' ' :: group.name ++ ' ' :: joinWith [','] group.members)
      group := by
  obtain ⟨-, ⟨nonempty, digits, nameWord, -⟩, someMember, -⟩ := reads_iff_isLine.mp reads
  have whole := uncut_of_reads reads
  have priorityWord : Word group.priority :=
    ⟨nonempty, fun c member => isInk_of_isDigit (digits c member)⟩
  have single : Gap [' '] := ⟨by simp, List.forall_mem_singleton.mpr (by decide)⟩
  have members : runs separates (joinWith [','] group.members) = group.members :=
    runs_joinWith (by decide) whole
  refine reads_iff_isLine.mpr ⟨joinWith [','] group.members, ?_, someMember, runs_eq_iff.mp members⟩
  refine ⟨nonempty, digits, nameWord, [' '], [' '], single, single, ?_⟩
  rw [trim_joined priorityWord someMember whole]
  simp

end Group

/-- The grammar of group lines, exact in both directions, and its normal form: the members that a
section lists between commas are those of the group, and a line that lists them so is a line of it. -/
theorem readLine_group_iff (kind : RecordKind) (number : Nat) (line : Text) :
    (∀ group, readLine Group.reader kind number line = .ok group ↔
      ∃ listed, Group.IsLine group.priority group.name listed (trim line) ∧ group.members ≠ [] ∧
        Runs Group.separates listed group.members) ∧
    ((∃ group, readLine Group.reader kind number line = .ok group) ↔
      ∃ priority name listed, Group.IsLine priority name listed (trim line) ∧
        ∃ c ∈ listed, c ≠ ',' ∧ isBlank c = false) ∧
    (∀ group, readLine Group.reader kind number line = .ok group →
      ∃ value, group.toSection.get? "programs" = some value ∧ value.splitOn ',' = group.members ∧
        ∀ otherKind otherNumber, readLine Group.reader otherKind otherNumber
          (group.priority ++ ' ' :: group.name ++ ' ' :: value) = .ok group) := by
  refine ⟨?_, ?_, ?_⟩
  · intro group
    exact readLine_eq_ok_iff.trans Group.reads_iff_isLine
  · simp only [readLine_eq_ok_iff]
    exact Group.exists_reads_iff
  · intro group read
    have reads := readLine_eq_ok_iff.mp read
    exact ⟨_, group.get?_toSection_programs, Group.splitOn_joinWith_members reads,
      fun _ _ => readLine_eq_ok_iff.mpr (Group.reads_joined reads)⟩

theorem readLine_group_iff_mixed :
    let line : Text := " 010 a,b ,x,, y,\tx ,"
    let group : Group := ⟨"010", "a,b", ["x", "y", "x"]⟩
    readLine Group.reader .group 3 line = .ok group ∧
      ∃ value, group.toSection.get? "programs" = some value ∧ value.splitOn ',' = group.members ∧
        ∀ otherKind otherNumber, readLine Group.reader otherKind otherNumber
          (group.priority ++ ' ' :: group.name ++ ' ' :: value) = .ok group := by
  intro line group
  have read : readLine Group.reader .group 3 line = .ok group := by decide +kernel
  exact ⟨read, (readLine_group_iff .group 3 line).2.2 group read⟩

end Supervision
