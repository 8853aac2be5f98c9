import Supervision.Proofs.Options.Document
import Supervision.Proofs.Record.Block
import Supervision.Proofs.Text.Lines
import Supervision.Record.Plugin

/-!
Blocks put together: the block of two texts one after the other is the block of the first and then
that of the second, whose lines count on.
-/

namespace Supervision

open Text Outcome

variable {Rec : Type}

/-- The same failure, so many lines further down. -/
def ConfigError.addLines (count : Nat) : ConfigError → ConfigError
  | .malformedLine kind number line => .malformedLine kind (number + count) line
  | .unknownTransport value => .unknownTransport value

theorem readLine_add (reader : Reader Rec) (kind : RecordKind) (number count : Nat) (line : Text) :
    readLine reader kind (number + count) line =
      (readLine reader kind number line).mapError (ConfigError.addLines count) := by
  unfold readLine
  split
  · split <;> rfl
  · rfl

/-- Where a block starts matters only for the numbers of its lines. -/
theorem readLines_add (reader : Reader Rec) (kind : RecordKind) (number count : Nat)
    (block : List Text) :
    readLines reader kind (number + count) block =
      (readLines reader kind number block).mapError (ConfigError.addLines count) := by
  induction block generalizing number with
  | nil => rfl
  | cons line block ih =>
      rw [readLines, readLines, Nat.add_right_comm, ih]
      split
      · rfl
      · rw [readLine_add]
        simp only [mapError_bind]
        rfl

theorem readLines_append (reader : Reader Rec) (kind : RecordKind) (number : Nat)
    (first second : List Text) :
    readLines reader kind number (first ++ second) = do
      let front ← readLines reader kind number first
      let back ← readLines reader kind (number + first.length) second
      return front ++ back := by
  induction first generalizing number with
  | nil => exact (bind_pure (readLines reader kind number second)).symm
  | cons line first ih =>
      rw [List.cons_append, readLines, readLines, ih, List.length_cons, Nat.add_assoc number 1,
        Nat.add_comm 1]
      split
      · rfl
      · simp

theorem readLines_concat_nil (reader : Reader Rec) (kind : RecordKind) (number : Nat)
    (block : List Text) :
    readLines reader kind number (block ++ [[]]) = readLines reader kind number block := by
  rw [readLines_append]
  cases readLines reader kind number block with
  | error error => rfl
  | ok records => exact congrArg Except.ok (List.append_nil records)

theorem readBlock_append (reader : Reader Rec) (kind : RecordKind) {first : Text}
    (unreturned : first.getLast? ≠ some '\r') (second : Text) :
    readBlock reader kind (first ++ '\n' :: second) = do
      let front ← readBlock reader kind first
      let back ← (readBlock reader kind second).mapError
        (ConfigError.addLines (first.count '\n' + 1))
      return front ++ back := by
  have pieces : readLines reader kind 1 ((splitWhere (· = '\n') first).map dropReturn) =
      readBlock reader kind first := by
    rcases map_dropReturn_splitWhere unreturned with same | opened
    · rw [same, readBlock]
    · rw [opened, readLines_concat_nil, readBlock]
  have counted : (splitWhere (· = '\n') first).length = first.count '\n' + 1 :=
    length_splitWhere _ first
  rw [readBlock, lines_append, readLines_append, pieces, List.length_map, counted, readLines_add]
  rfl

/-! Listed lines, for which neither ends of lines nor open lines matter. -/

namespace Options

theorem inkLines_eq_splitWhere (text : Text) :
    inkLines text = ((splitWhere (· = '\n') text).map trim).filter fun line => !line.isEmpty := by
  rw [inkLines, lines]
  induction splitWhere (· = '\n') text with
  | nil => rfl
  | cons piece pieces ih =>
      cases pieces with
      | nil => cases piece <;> rfl
      | cons second pieces =>
          rw [endLines, List.map_cons, List.map_cons, List.filter_cons, List.filter_cons, ih,
            trim_dropReturn]
          exact List.cons_ne_nil second pieces

theorem inkLines_append (first second : Text) :
    inkLines (first ++ '\n' :: second) = inkLines first ++ inkLines second := by
  simp only [inkLines_eq_splitWhere]
  rw [splitWhere_append (by simp), List.map_append, List.filter_append]

theorem inkLines_joinWith (texts : List Text) :
    inkLines (joinWith ['\n'] texts) = texts.flatMap inkLines := by
  induction texts with
  | nil => rfl
  | cons text texts ih =>
      cases texts with
      | nil => rw [joinWith, List.intercalate_singleton, List.flatMap_singleton]
      | cons second texts =>
          rw [joinWith, List.intercalate_cons_cons, List.append_assoc, List.singleton_append,
            inkLines_append, ← joinWith, ih]
          rfl

end Options

/-! Texts joined by line feeds. -/

variable {reader : Reader Rec} {kind : RecordKind} {elements : List Text}

theorem readBlock_joinWith_eq_ok_iff {records : List Rec} :
    readBlock reader kind (joinWith ['\n'] elements) = .ok records ↔
      ∃ parts : List (List Rec),
        elements.map (readBlock reader kind) = parts.map .ok ∧ parts.flatten = records := by
  have each : ∀ element part, List.Forall₂ reader.Reads (Options.inkLines element) part ↔
      readBlock reader kind element = .ok part := fun _ _ => readBlock_eq_ok_iff_inkLines.symm
  rw [readBlock_eq_ok_iff_inkLines, Options.inkLines_joinWith, forall₂_flatMap_iff]
  simp only [each, forall₂_eq_ok_iff]

theorem Reader.rejects_ended_iff {line : Text} (isLast : Prop) [Decidable isLast] :
    reader.Rejects (if isLast then line else dropReturn line) ↔ reader.Rejects line := by
  split
  · rfl
  · simp only [Rejects, Reads, allBlank_dropReturn, trim_dropReturn]

theorem Reader.not_rejects_iff_readBlock {line : Text} (single : '\n' ∉ line) :
    ¬reader.Rejects line ↔ ∃ records, readBlock reader kind line = .ok records := by
  have whole : lines line = endLines [line] := by
    rw [lines, splitWhere_eq_singleton]
    intro c member
    exact decide_eq_false fun same => single (same ▸ member)
  rw [exists_readBlock_eq_ok_iff, whole]
  cases line with
  | nil => simp [endLines, Rejects, allBlank]
  | cons c line => simp [endLines]

/-- The first bad text decides how the block fails. Its line is the text itself, without the
carriage return at its end if other texts follow. -/
theorem readBlock_joinWith_eq_error_iff (single : ∀ element ∈ elements, '\n' ∉ element)
    {error : ConfigError} :
    readBlock reader kind (joinWith ['\n'] elements) = .error error ↔
      ∃ index element, elements[index]? = some element ∧ reader.Rejects element ∧
        (∀ earlier < index, ∀ other, elements[earlier]? = some other → ¬reader.Rejects other) ∧
        error = .malformedLine kind (index + 1)
          (if index + 1 = elements.length then element else dropReturn element) := by
  rw [readBlock_eq_error_iff, stopsAt_iff_getElem?, lines_joinWith single]
  simp only [getElem?_endLines, Nat.add_comm 1]
  constructor
  · rintro ⟨index, _, ⟨element, found, -, rfl⟩, passed, rejected, rfl⟩
    refine ⟨index, element, found, (Reader.rejects_ended_iff _).mp rejected, ?_, rfl⟩
    intro earlier less other there
    have inside := (List.getElem?_eq_some_iff.mp found).1
    have followed : earlier + 1 ≠ elements.length := by omega
    rw [← Reader.rejects_ended_iff (earlier + 1 = elements.length)]
    exact passed earlier less _ ⟨other, there, fun last => absurd last followed, rfl⟩
  · rintro ⟨index, element, found, rejected, passed, rfl⟩
    have nonempty : element ≠ [] := by
      rintro rfl
      exact absurd rejected.1 (by simp [allBlank])
    refine ⟨index, _, ⟨element, found, fun _ => nonempty, rfl⟩, ?_,
      (Reader.rejects_ended_iff _).mpr rejected, rfl⟩
    rintro earlier less _ ⟨other, there, -, rfl⟩
    rw [Reader.rejects_ended_iff]
    exact passed earlier less other there

/-- Blocks compose. A line feed between two texts puts the block of the second after that of the
first, unless the first text ends in a carriage return, which would get lost; an error of the second
tells its line in the whole. So a list of strings in a document means what its items mean one after
the other, and the first bad item is told by its place in the list. -/
theorem readBlock_composes (reader : Reader Rec) (kind : RecordKind) :
    (∀ first second : Text, first.getLast? ≠ some '\r' →
      readBlock reader kind (first ++ '\n' :: second) = do
        let front ← readBlock reader kind first
        let back ← (readBlock reader kind second).mapError
          (ConfigError.addLines (first.count '\n' + 1))
        return front ++ back) ∧
    (∀ document table options key elements, Toml.parse document = some table →
      Options.ofToml document = .ok options →
      (key, .array (elements.map Toml.Value.string)) ∈ table →
      options.get? key = some (joinWith ['\n'] elements) ∧
      options.blockLines key = elements.flatMap Options.inkLines ∧
      (∀ records, readBlock reader kind (options.block key) = .ok records ↔
        ∃ parts : List (List Rec),
          elements.map (readBlock reader kind) = parts.map .ok ∧ parts.flatten = records) ∧
      ((∀ element ∈ elements, '\n' ∉ element) →
        ∀ error, readBlock reader kind (options.block key) = .error error ↔
          ∃ index element, elements[index]? = some element ∧
            (∀ records, readBlock reader kind element ≠ .ok records) ∧
            (∀ earlier < index, ∀ other, elements[earlier]? = some other →
              ∃ records, readBlock reader kind other = .ok records) ∧
            error = .malformedLine kind (index + 1)
              (if index + 1 = elements.length then element else dropReturn element))) := by
  refine ⟨fun first second unreturned => readBlock_append reader kind unreturned second, ?_⟩
  intro document table options key elements parsed taken member
  have stored := Options.get?_of_strings parsed taken member
  have block : options.block key = joinWith ['\n'] elements := by
    rw [Options.block, Options.getD, stored, Option.getD_some]
  refine ⟨stored, ?_, ?_, ?_⟩
  · rw [Options.blockLines, block, Options.inkLines_joinWith]
  · intro records
    rw [block, readBlock_joinWith_eq_ok_iff]
  · intro single error
    rw [block, readBlock_joinWith_eq_error_iff single]
    have passes : ∀ {index element}, elements[index]? = some element →
        (¬reader.Rejects element ↔ ∃ records, readBlock reader kind element = .ok records) :=
      fun found => Reader.not_rejects_iff_readBlock (single _ (List.mem_of_getElem? found))
    constructor
    · rintro ⟨index, element, found, rejected, passed, equal⟩
      refine ⟨index, element, found, ?_, ?_, equal⟩
      · exact fun records read => (passes found).mpr ⟨records, read⟩ rejected
      · exact fun earlier less other there => (passes there).mp (passed earlier less other there)
    · rintro ⟨index, element, found, refused, passed, equal⟩
      refine ⟨index, element, found, ?_, ?_, equal⟩
      · exact not_not.mp fun good => (passes found).mp good |>.elim refused
      · exact fun earlier less other there => (passes there).mpr (passed earlier less other there)

theorem readBlock_composes_in_list :
    let document : Text := "rpcplugins = [\"a f\", \" \", \"bad\\r\", \"c g\"]"
    ∃ options, Options.ofToml document = .ok options ∧
      options.blockLines "rpcplugins" = ["a f".toList, "bad".toList, "c g".toList] ∧
      readBlock Plugin.reader .rpcPlugin (options.block "rpcplugins") =
        .error (.malformedLine .rpcPlugin 3 "bad") ∧
      readBlock Plugin.reader .rpcPlugin ("a f\n ".toList ++ '\n' :: "bad\r".toList) =
        .error (.malformedLine .rpcPlugin 3 "bad\r") := by
  intro document
  have found : ((Toml.parse document).bind fun table =>
      (table.lookup "rpcplugins".toList).bind Options.strings?) =
        some ["a f".toList, " ".toList, "bad\r".toList, "c g".toList] := by
    decide +kernel
  obtain ⟨table, parsed, inTable⟩ := Option.bind_eq_some_iff.mp found
  obtain ⟨value, looked, strings⟩ := Option.bind_eq_some_iff.mp inTable
  obtain rfl := Options.strings?_eq_some_iff.mp strings
  obtain ⟨before, after, rfl, -⟩ := List.lookup_eq_some_iff.mp looked
  obtain ⟨options, taken⟩ : ∃ options, Options.ofToml document = .ok options :=
    exists_eq_ok_of_isOk (by decide +kernel)
  obtain ⟨appended, inLists⟩ := readBlock_composes Plugin.reader .rpcPlugin
  obtain ⟨-, listed, -, failed⟩ := inLists document _ options "rpcplugins" _ parsed taken
    (List.mem_append_right before List.mem_cons_self)
  refine ⟨options, taken, listed.trans rfl,
    (failed (by decide) _).mpr ⟨2, "bad\r".toList, rfl, ?_, ?_, rfl⟩, ?_⟩
  · intro records read
    cases read
  · intro earlier less other there
    rcases earlier with _ | _ | earlier
    · obtain rfl := Option.some.inj there
      exact ⟨[⟨"a", "f"⟩], rfl⟩
    · obtain rfl := Option.some.inj there
      exact ⟨[], rfl⟩
    · omega
  · exact (appended _ _ (by decide)).trans rfl

end Supervision
