import Supervision.Proofs.Reader.Steps
import Supervision.Proofs.Text.Bytes

/-!
Reading in place: a cursor that is moved over the text, counted in bytes, and put back where a step
yields nothing. Every step yields in place what it yields as a reader, and leaves the cursor behind
the text that it takes.
-/

namespace Supervision

open Text

structure Cursor where
  text : Text
  position : Nat

namespace Cursor

def between (front rest : Text) : Cursor :=
  ⟨front ++ rest, size front⟩

theorem between_append (front taken rest : Text) :
    between (front ++ taken) rest = ⟨front ++ (taken ++ rest), size front + size taken⟩ := by
  rw [between, List.append_assoc, size_append]

end Cursor

/-- Moves a cursor, and yields something or nothing. It breaks off where the cursor stands inside a
character. -/
abbrev Scan := OptionT (StateT Cursor Option)

namespace Scan

open Cursor (between)

variable {α β : Type}

def result (scan : Scan α) (cursor : Cursor) : Option (Option α × Cursor) :=
  scan.run.run cursor

def unread : Scan Text := fun cursor =>
  (afterBytes cursor.position cursor.text).map fun rest => (some rest, cursor)

def advance (count : Nat) : Scan Unit :=
  modify fun cursor => { cursor with position := cursor.position + count }

def toEnd : Scan Unit :=
  modify fun cursor => { cursor with position := size cursor.text }

/-- Puts the cursor back if nothing is yielded. -/
def attempt (scan : Scan α) : Scan α := fun cursor =>
  (scan.result cursor).map fun ended =>
    match ended with
    | (some found, after) => (some found, after)
    | (none, _) => (none, cursor)

def gap : Scan Unit := do
  let rest ← unread
  let trimmed := trimStart rest
  advance (size rest - size trimmed)
  guard (size rest ≠ size trimmed)

def word : Scan Text := do
  let rest ← unread
  let found := rest.takeWhile isInk
  guard (size found ≠ 0)
  advance (size found)
  return found

def digits : Scan Text :=
  attempt do
    let found ← word
    guard (found.all Char.isDigit)
    return found

def delimited (opening closing : Char) : Scan Text := do
  match ← unread with
  | [] => failure
  | c :: inner =>
      guard (c = opening)
      match splitOnce closing inner with
      | none => failure
      | some (found, _) =>
          guard (size found ≠ 0)
          advance (opening.utf8Size + size found + closing.utf8Size)
          return found

def remainder : Scan Text := do
  let found := trimEnd (← unread)
  guard (found ≠ [])
  toEnd
  return found

def atEnd : Scan Unit := do
  let rest ← unread
  guard (trim rest = [])

def spaced (scan : Scan α) : Scan α :=
  attempt do
    gap
    scan

/-! What a scan comes to. -/

theorem result_bind (scan : Scan α) (next : α → Scan β) (cursor : Cursor) :
    (scan >>= next).result cursor =
      (scan.result cursor).bind fun ended =>
        match ended with
        | (some found, after) => (next found).result after
        | (none, after) => some (none, after) := by
  change Option.bind (scan.result cursor) _ = _
  congr 1
  funext ⟨found, after⟩
  cases found <;> rfl

theorem result_bind_of_yields {scan : Scan α} {next : α → Scan β} {cursor after : Cursor} {found : α}
    (scanned : scan.result cursor = some (some found, after)) :
    (scan >>= next).result cursor = (next found).result after := by
  rw [result_bind, scanned, Option.bind_some]

theorem result_bind_of_stops {scan : Scan α} {next : α → Scan β} {cursor after : Cursor}
    (scanned : scan.result cursor = some (none, after)) :
    (scan >>= next).result cursor = some (none, after) := by
  rw [result_bind, scanned, Option.bind_some]

@[simp] theorem result_pure (value : α) (cursor : Cursor) :
    (pure value : Scan α).result cursor = some (some value, cursor) :=
  rfl

@[simp] theorem result_guard (condition : Prop) [Decidable condition] (cursor : Cursor) :
    (guard condition : Scan Unit).result cursor =
      if condition then some (some (), cursor) else some (none, cursor) := by
  unfold guard
  split <;> rfl

@[simp] theorem result_unread_bind (next : Text → Scan β) (cursor : Cursor) :
    (unread >>= next).result cursor =
      (afterBytes cursor.position cursor.text).bind fun rest => (next rest).result cursor := by
  rw [result_bind]
  change Option.bind (Option.map _ _) _ = _
  rw [Option.bind_map]
  rfl

@[simp] theorem result_advance_bind (count : Nat) (next : Unit → Scan β) (cursor : Cursor) :
    (advance count >>= next).result cursor =
      (next ()).result ⟨cursor.text, cursor.position + count⟩ :=
  rfl

@[simp] theorem result_toEnd_bind (next : Unit → Scan β) (cursor : Cursor) :
    (toEnd >>= next).result cursor = (next ()).result ⟨cursor.text, size cursor.text⟩ :=
  rfl

@[simp] theorem result_guard_bind (condition : Prop) [Decidable condition] (next : Unit → Scan β)
    (cursor : Cursor) : (guard condition >>= next).result cursor =
      if condition then (next ()).result cursor else some (none, cursor) := by
  rw [result_bind, result_guard]
  split <;> rfl

theorem result_attempt (scan : Scan α) (cursor : Cursor) :
    (attempt scan).result cursor = (scan.result cursor).map fun ended =>
      match ended with
      | (some found, after) => (some found, after)
      | (none, _) => (none, cursor) :=
  rfl

theorem result_unread_bind_between (next : Text → Scan β) (front rest : Text) :
    (unread >>= next).result (between front rest) = (next rest).result (between front rest) := by
  rw [result_unread_bind, between, afterBytes_size, Option.bind_some]

/-! Putting the cursor back. -/

/-- A scan that yields nothing leaves the cursor where it was. -/
def Rewinds (scan : Scan α) : Prop :=
  ∀ cursor after, scan.result cursor = some (none, after) → after = cursor

theorem rewinds_attempt (scan : Scan α) : Rewinds (attempt scan) := by
  intro cursor after ended
  obtain ⟨⟨found, place⟩, -, equal⟩ := Option.map_eq_some_iff.mp ended
  cases found with
  | none => exact (Prod.mk.inj equal).2.symm
  | some found => cases equal

theorem rewinds_failure : Rewinds (failure : Scan α) := by
  intro cursor after ended
  cases ended
  rfl

theorem rewinds_unread_bind {next : Text → Scan β} (inner : ∀ rest, Rewinds (next rest)) :
    Rewinds (unread >>= next) := by
  intro cursor after ended
  rw [result_unread_bind] at ended
  obtain ⟨rest, -, later⟩ := Option.bind_eq_some_iff.mp ended
  exact inner rest cursor after later

theorem rewinds_guard_bind (condition : Prop) [Decidable condition] {next : Unit → Scan β}
    (inner : condition → Rewinds (next ())) : Rewinds (guard condition >>= next) := by
  intro cursor after ended
  rw [result_guard_bind] at ended
  split at ended
  case isTrue holds => exact inner holds cursor after ended
  case isFalse =>
    cases ended
    rfl

theorem Rewinds.map {scan : Scan α} (rewinds : Rewinds scan) (f : α → β) :
    Rewinds (do return f (← scan)) := by
  intro cursor after ended
  rw [result_bind] at ended
  obtain ⟨⟨found, place⟩, first, later⟩ := Option.bind_eq_some_iff.mp ended
  cases found with
  | none =>
      cases later
      exact rewinds cursor _ first
  | some found => cases later

theorem rewinds_gap : Rewinds gap := by
  refine rewinds_unread_bind fun rest cursor after ended => ?_
  rw [result_advance_bind, result_guard] at ended
  split at ended
  case isTrue => cases ended
  -- The cursor is moved before the test, but by nothing where the test fails.
  case isFalse same =>
    rw [not_not] at same
    rw [same, Nat.sub_self, Nat.add_zero] at ended
    cases ended
    rfl

theorem rewinds_word : Rewinds word :=
  rewinds_unread_bind fun _ => rewinds_guard_bind _ fun _ _ _ ended => by cases ended

theorem rewinds_remainder : Rewinds remainder :=
  rewinds_unread_bind fun _ => rewinds_guard_bind _ fun _ _ _ ended => by cases ended

theorem rewinds_atEnd : Rewinds atEnd := by
  refine rewinds_unread_bind fun rest cursor after ended => ?_
  rw [result_guard] at ended
  split at ended <;> cases ended
  rfl

theorem rewinds_delimited (opening closing : Char) : Rewinds (delimited opening closing) := by
  refine rewinds_unread_bind fun rest => ?_
  cases rest with
  | nil => exact rewinds_failure
  | cons c inner =>
      refine rewinds_guard_bind _ fun _ => ?_
      cases splitOnce closing inner with
      | none => exact rewinds_failure
      | some halves => exact rewinds_guard_bind _ fun _ _ _ ended => by cases ended

/-! Reading in place what a reader reads. -/

/-- A scan yields what the reader of the unread text yields, and moves the cursor by the text that
it takes. Where the reader yields nothing, so does the scan, with the cursor wherever it got to. -/
structure Follows (scan : Scan α) (reader : Reader α) : Prop where
  yields : ∀ {front rest left : Text} {found : α}, reader rest = some (found, left) →
    ∃ taken, rest = taken ++ left ∧
      scan.result (between front rest) = some (some found, between (front ++ taken) left)
  stops : ∀ {front rest : Text}, reader rest = none →
    ∃ after, scan.result (between front rest) = some (none, after)

theorem follows_pure (value : α) : Follows (pure value) (pure value) where
  yields := by
    intro front rest left found taken
    obtain ⟨rfl, rfl⟩ := Reader.pure_eq_some_iff.mp taken
    exact ⟨[], rfl, by rw [List.append_nil, result_pure]⟩
  stops := fun stopped => by cases stopped

theorem Follows.bind {scan : Scan α} {reader : Reader α} {next : α → Scan β}
    {nextReader : α → Reader β} (first : Follows scan reader)
    (second : ∀ found, Follows (next found) (nextReader found)) :
    Follows (scan >>= next) (reader >>= nextReader) where
  yields := by
    intro front rest left found taken
    obtain ⟨value, middle, here, later⟩ := Reader.bind_eq_some_iff.mp taken
    obtain ⟨piece, rfl, scanned⟩ := first.yields here
    obtain ⟨others, rfl, scannedLater⟩ := (second value).yields later
    refine ⟨piece ++ others, (List.append_assoc piece others left).symm, ?_⟩
    rw [result_bind_of_yields scanned, scannedLater, List.append_assoc]
  stops := by
    intro front rest stopped
    cases here : reader rest with
    | none =>
        obtain ⟨after, scanned⟩ := first.stops here
        exact ⟨after, result_bind_of_stops scanned⟩
    | some taken =>
        obtain ⟨value, middle⟩ := taken
        have later : nextReader value middle = none := by
          change (reader rest).bind _ = none at stopped
          rwa [here] at stopped
        obtain ⟨piece, rfl, scanned⟩ := first.yields here
        obtain ⟨after, scannedLater⟩ := (second value).stops later
        exact ⟨after, (result_bind_of_yields scanned).trans scannedLater⟩

theorem Follows.map {scan : Scan α} {reader : Reader α} (inner : Follows scan reader) (f : α → β) :
    Follows (do return f (← scan)) (do return f (← reader)) :=
  inner.bind fun found => follows_pure (f found)

theorem Follows.attempt {scan : Scan α} {reader : Reader α} (inner : Follows scan reader) :
    Follows (attempt scan) reader where
  yields := by
    intro front rest left found taken
    obtain ⟨taken, equal, scanned⟩ := inner.yields taken
    exact ⟨taken, equal, by rw [result_attempt, scanned, Option.map_some]⟩
  stops := by
    intro front rest stopped
    obtain ⟨after, scanned⟩ := inner.stops stopped
    exact ⟨between front rest, by rw [result_attempt, scanned, Option.map_some]⟩

theorem follows_gap : Follows gap Reader.gap where
  yields := by
    intro front rest left mark taken
    obtain ⟨blanks, nonempty, uniform, rfl, starts⟩ := Reader.gap_eq_some_iff.mp taken
    have trimmed : trimStart (blanks ++ left) = left :=
      (takeWhile_dropWhile_iff.mpr ⟨rfl, uniform, starts⟩).2
    have moved : size (blanks ++ left) - size left = size blanks := by
      rw [size_append, Nat.add_sub_cancel]
    have longer : size (blanks ++ left) ≠ size left := by
      have filled := size_pos nonempty
      rw [size_append]
      omega
    refine ⟨blanks, rfl, ?_⟩
    rw [gap, result_unread_bind_between, trimmed, result_advance_bind, result_guard, moved,
      if_pos longer, Cursor.between_append, between]
  stops := by
    intro front rest stopped
    have untrimmed : trimStart rest = rest := by
      cases rest with
      | nil => rfl
      | cons c rest =>
          have ink : isBlank c = false := by simpa [Reader.gap] using stopped
          rw [trimStart, List.dropWhile_cons_of_neg (by simp [ink])]
    rw [gap, result_unread_bind_between, untrimmed, result_advance_bind, result_guard]
    exact ⟨_, if_neg (not_not.mpr rfl)⟩

theorem follows_word : Follows word Reader.word where
  yields := by
    intro front rest left found taken
    obtain ⟨nonempty, uniform, rfl, stops⟩ := Reader.word_eq_some_iff.mp taken
    have front_eq : (found ++ left).takeWhile isInk = found :=
      (takeWhile_dropWhile_iff.mpr ⟨rfl, uniform, stops⟩).1
    have filled : size found ≠ 0 := Nat.pos_iff_ne_zero.mp (size_pos nonempty)
    refine ⟨found, rfl, ?_⟩
    rw [word, result_unread_bind_between, front_eq, result_guard_bind, if_pos filled,
      result_advance_bind, result_pure, Cursor.between_append, between]
  stops := by
    intro front rest stopped
    have empty : rest.takeWhile isInk = [] := by
      rw [Reader.word] at stopped
      split at stopped
      case h_1 empty => exact empty
      case h_2 => cases stopped
    rw [word, result_unread_bind_between, empty, result_guard_bind]
    exact ⟨_, if_neg (not_not.mpr rfl)⟩

theorem Follows.filter {scan : Scan α} {reader : Reader α} (inner : Follows scan reader)
    (accepts : α → Bool) :
    Follows (do
      let found ← scan
      guard (accepts found)
      return found) fun text => (reader text).filter fun taken => accepts taken.1 where
  yields := by
    intro front rest left found taken
    obtain ⟨here, accepted⟩ := Option.filter_eq_some_iff.mp taken
    obtain ⟨piece, equal, scanned⟩ := inner.yields here
    refine ⟨piece, equal, ?_⟩
    rw [result_bind_of_yields scanned, result_guard_bind, if_pos accepted, result_pure]
  stops := by
    intro front rest stopped
    cases here : reader rest with
    | none =>
        obtain ⟨after, scanned⟩ := inner.stops here
        exact ⟨after, result_bind_of_stops scanned⟩
    | some taken =>
        obtain ⟨found, left⟩ := taken
        have refused : ¬accepts found = true :=
          Option.filter_eq_none_iff.mp stopped (found, left) here
        obtain ⟨piece, -, scanned⟩ := inner.yields here
        refine ⟨between (front ++ piece) left, ?_⟩
        rw [result_bind_of_yields scanned, result_guard_bind, if_neg refused]

theorem follows_digits : Follows digits Reader.digits :=
  (follows_word.filter fun found => found.all Char.isDigit).attempt

theorem follows_remainder : Follows remainder Reader.remainder where
  yields := by
    intro front rest left found taken
    obtain ⟨nonempty, ends, rfl, blanks, uniform, rfl⟩ := Step.remainder_eq_some_iff.mp taken
    have trimmed : trimEnd (found ++ blanks) = found := by
      rw [trimEnd_append_blanks uniform, Step.trimEnd_eq_self ends]
    refine ⟨found ++ blanks, (List.append_nil _).symm, ?_⟩
    rw [remainder, result_unread_bind_between, trimmed, result_guard_bind, if_pos nonempty,
      result_toEnd_bind, result_pure, between, between, List.append_nil]
  stops := by
    intro front rest stopped
    have empty : trimEnd rest = [] := by
      rw [Reader.remainder] at stopped
      split at stopped
      case h_1 empty => exact empty
      case h_2 => cases stopped
    rw [remainder, result_unread_bind_between, empty, result_guard_bind]
    exact ⟨_, if_neg (not_not.mpr rfl)⟩

theorem follows_atEnd : Follows atEnd Reader.atEnd where
  yields := by
    intro front rest left mark taken
    obtain ⟨blank, rfl⟩ := Step.atEnd_eq_some_iff.mp taken
    refine ⟨[], rfl, ?_⟩
    rw [atEnd, result_unread_bind_between, result_guard,
      if_pos (trim_eq_nil_iff.mpr (allBlank_iff.mpr blank)), List.append_nil]
  stops := by
    intro front rest stopped
    have inked : ¬trim rest = [] := by
      intro trimmed
      rw [Reader.atEnd, if_pos (trim_eq_nil_iff.mp trimmed)] at stopped
      cases stopped
    rw [atEnd, result_unread_bind_between, result_guard]
    exact ⟨_, if_neg inked⟩

theorem follows_delimited (opening closing : Char) :
    Follows (delimited opening closing) (Reader.delimited opening closing) where
  yields := by
    intro front rest left found taken
    obtain ⟨nonempty, unclosed, equal⟩ := Reader.delimited_eq_some_iff.mp taken
    have halves : splitOnce closing (found ++ closing :: left) = some (found, left) :=
      splitOnce_eq_some_iff.mpr ⟨unclosed, rfl⟩
    have filled : size found ≠ 0 := Nat.pos_iff_ne_zero.mp (size_pos nonempty)
    refine ⟨opening :: found ++ [closing], by simpa using equal, ?_⟩
    subst equal
    rw [delimited, result_unread_bind_between, List.cons_append]
    refine (result_guard_bind (opening = opening) _ _).trans ?_
    rw [if_pos rfl, halves]
    refine (result_guard_bind (size found ≠ 0) _ _).trans ?_
    rw [if_pos filled, result_advance_bind, result_pure]
    simp [between, Nat.add_assoc]
  stops := by
    intro front rest stopped
    rw [delimited, result_unread_bind_between]
    cases rest with
    | nil => exact ⟨_, rfl⟩
    | cons c inner =>
        refine ⟨between front (c :: inner), ?_⟩
        rw [result_guard_bind]
        by_cases opened : c = opening
        case neg => exact if_neg opened
        case pos =>
          rw [Reader.delimited, if_pos opened] at stopped
          rw [if_pos opened]
          cases halves : splitOnce closing inner with
          | none => rfl
          | some taken =>
              obtain ⟨found, left⟩ := taken
              have empty : found = [] := by
                simpa using Option.filter_eq_none_iff.mp stopped (found, left) halves
              exact (result_guard_bind (size found ≠ 0) _ _).trans (if_neg (by simp [empty]))

theorem Follows.spaced {scan : Scan α} {reader : Reader α} (inner : Follows scan reader) :
    Follows (spaced scan) (Reader.spaced reader) :=
  (follows_gap.bind fun _ => inner).attempt

end Scan

namespace Step

mutual

def scan : Step → Scan Yield
  | .gap => do
      Scan.gap
      return .mark
  | .word => return .text (← Scan.word)
  | .digits => return .text (← Scan.digits)
  | .remainder => return .text (← Scan.remainder)
  | .atEnd => do
      Scan.atEnd
      return .mark
  | .delimited opening closing => return .text (← Scan.delimited opening closing)
  | .attempt steps => return .items (← Scan.attempt (scanAll steps))
  | .spaced steps => return .items (← Scan.spaced (scanAll steps))

def scanAll : List Step → Scan (List Yield)
  | [] => pure []
  | step :: steps => do
      let found ← scan step
      let others ← scanAll steps
      return found :: others

end

/-- What each step of a sequence yields, and where it leaves the cursor. -/
def placesFrom : List Step → Cursor → Option (List (Option Yield × Cursor))
  | [], _ => some []
  | step :: steps, cursor => do
      let (found, after) ← (scan step).result cursor
      let others ← placesFrom steps after
      return (found, after) :: others

theorem rewinds_scan (step : Step) : Scan.Rewinds step.scan := by
  cases step with
  | gap => exact Scan.rewinds_gap.map fun _ => Yield.mark
  | word => exact Scan.rewinds_word.map Yield.text
  | digits => exact (Scan.rewinds_attempt _).map Yield.text
  | remainder => exact Scan.rewinds_remainder.map Yield.text
  | atEnd => exact Scan.rewinds_atEnd.map fun _ => Yield.mark
  | delimited opening closing =>
      exact (Scan.rewinds_delimited opening closing).map Yield.text
  | attempt steps => exact (Scan.rewinds_attempt _).map Yield.items
  | spaced steps => exact (Scan.rewinds_attempt _).map Yield.items

-- A step inside a sequence may have moved the cursor before a later one yields nothing, so that a
-- sequence follows its reader without putting the cursor back.
mutual

theorem follows_scan : ∀ step : Step, Scan.Follows step.scan step.read
  | .gap => Scan.follows_gap.map fun _ => Yield.mark
  | .word => Scan.follows_word.map Yield.text
  | .digits => Scan.follows_digits.map Yield.text
  | .remainder => Scan.follows_remainder.map Yield.text
  | .atEnd => Scan.follows_atEnd.map fun _ => Yield.mark
  | .delimited opening closing => (Scan.follows_delimited opening closing).map Yield.text
  | .attempt steps => (follows_scanAll steps).attempt.map Yield.items
  | .spaced steps => by
      have regrouped : read (.spaced steps) = do return .items (← Reader.spaced (readAll steps)) := by
        rw [read, Reader.spaced, bind_assoc]
      rw [regrouped]
      exact (follows_scanAll steps).spaced.map Yield.items

theorem follows_scanAll : ∀ steps : List Step, Scan.Follows (scanAll steps) (readAll steps)
  | [] => Scan.follows_pure []
  | step :: steps => (follows_scan step).bind fun found => (follows_scanAll steps).map (found :: ·)

end

end Step

end Supervision
