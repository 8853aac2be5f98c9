import Supervision.CommandLine.Session
import Supervision.Proofs.Text.Lines
import Supervision.Proofs.Text.Quoted

/-!
Messages of bad configurations: each tells one error and no other, and takes one line.
-/

namespace Supervision

open Text

/-! Labels. -/

theorem RecordKind.label_ne_nil (kind : RecordKind) : kind.label ≠ [] := by
  cases kind <;> decide

theorem RecordKind.eq_of_head?_label {kind other : RecordKind}
    (same : kind.label.head? = other.label.head?) : kind = other := by
  revert kind other
  rintro ⟨⟩ ⟨⟩ <;> decide

theorem RecordKind.head?_label_append (kind : RecordKind) (rest : Text) :
    (kind.label ++ rest).head? = kind.label.head? :=
  List.head?_append_of_ne_nil _ kind.label_ne_nil

namespace ConfigError

variable {kind : RecordKind} {number : Nat} {line value : Text} {error other : ConfigError}

/-! Which error is told. -/

theorem message_malformedLine (kind : RecordKind) (number : Nat) (line : Text) :
    (malformedLine kind number line).message =
      kind.label ++ (" line ".toList ++ (ofNat number ++
        (" is malformed: ".toList ++ quoted line))) := by
  have told : (malformedLine kind number line).message = kind.label ++ " line ".toList ++
      ofNat number ++ " is malformed: ".toList ++ quoted line := rfl
  simp only [told, List.append_assoc]

theorem message_unknownTransport (value : Text) :
    (unknownTransport value).message =
      "http-socket only supports values inet or unix, got ".toList ++ quoted value :=
  rfl

theorem message_malformedLine_inj {otherKind : RecordKind} {otherNumber : Nat} {otherLine : Text}
    (same : (malformedLine kind number line).message =
      (malformedLine otherKind otherNumber otherLine).message) :
    malformedLine kind number line = malformedLine otherKind otherNumber otherLine := by
  rw [message_malformedLine, message_malformedLine] at same
  have heads := congrArg List.head? same
  rw [RecordKind.head?_label_append, RecordKind.head?_label_append] at heads
  obtain rfl := RecordKind.eq_of_head?_label heads
  have counted := List.append_cancel_left (List.append_cancel_left same)
  obtain ⟨rfl, later⟩ := ofNat_append_inj (c := ' ') (by decide) counted
  have rests : "is malformed: ".toList ++ quoted line =
      "is malformed: ".toList ++ quoted otherLine := later
  rw [quoted_inj.mp (List.append_cancel_left rests)]

theorem message_malformedLine_ne :
    (malformedLine kind number line).message ≠ (unknownTransport value).message := by
  intro same
  rw [message_malformedLine, message_unknownTransport] at same
  have heads := congrArg List.head? same
  rw [RecordKind.head?_label_append] at heads
  cases kind <;> cases heads

theorem message_inj : error.message = other.message ↔ error = other := by
  refine ⟨fun same => ?_, fun same => by rw [same]⟩
  cases error with
  | malformedLine kind number line =>
      cases other with
      | malformedLine otherKind otherNumber otherLine => exact message_malformedLine_inj same
      | unknownTransport value => exact absurd same message_malformedLine_ne
  | unknownTransport value =>
      cases other with
      | malformedLine kind number line => exact absurd same.symm message_malformedLine_ne
      | unknownTransport otherValue =>
          rw [message_unknownTransport, message_unknownTransport] at same
          rw [quoted_inj.mp (List.append_cancel_left same)]

/-! What a message is made of. -/

theorem all_isPrintable_message (error : ConfigError) : error.message.all isPrintable = true := by
  cases error with
  | malformedLine kind number line =>
      have label : kind.label.all isPrintable = true := by cases kind <;> decide
      have digits : (ofNat number).all isPrintable = true :=
        all_isPrintable_toDigits (by omega) (by omega) number
      rw [message_malformedLine]
      simp only [List.all_append, label, digits, all_isPrintable_quoted]
      decide
  | unknownTransport value =>
      rw [message_unknownTransport, List.all_append, all_isPrintable_quoted]
      decide

theorem isControl_of_mem_message {c : Char} (member : c ∈ error.message) : isControl c = false :=
  isControl_of_isPrintable (List.all_eq_true.mp (all_isPrintable_message error) c member)

theorem newline_not_mem_message (error : ConfigError) : '\n' ∉ error.message := fun member =>
  absurd (isControl_of_mem_message member) (by decide)

theorem message_ne_nil (error : ConfigError) : error.message ≠ [] := by
  cases error with
  | malformedLine kind number line =>
      rw [message_malformedLine]
      exact List.append_ne_nil_of_left_ne_nil kind.label_ne_nil _
  | unknownTransport value => exact List.append_ne_nil_of_left_ne_nil (by decide) _

end ConfigError

namespace CommandLine

theorem errorLine_badConfiguration (error : ConfigError) :
    errorLine (.badConfiguration error) = "Error: ".toList ++ error.message := by
  have told : (Failure.badConfiguration error).message = error.message := rfl
  have firstLine : error.message.takeWhile (· ≠ '\n') = error.message := by
    have single : ∀ c ∈ error.message, decide (c ≠ '\n') = true := fun c member =>
      decide_eq_true fun newline => error.newline_not_mem_message (newline ▸ member)
    exact (takeWhile_dropWhile_iff.mpr ⟨(List.append_nil _).symm, single, by simp⟩).1
  rw [errorLine, told, firstLine]
  refine dropReturn_eq_self fun returned => ?_
  rcases List.mem_append.mp (List.mem_of_getLast? returned) with fixed | member
  · revert fixed
    decide
  · exact absurd (ConfigError.isControl_of_mem_message member) (by decide)

end CommandLine

/-- The message of an error is that of no other error, whatever texts the two are about, and it is
a single line, which a run that fails with the error prints whole. -/
theorem ConfigError.message_identifies (error : ConfigError) :
    (∀ other : ConfigError, other.message = error.message ↔ other = error) ∧
    (∀ c ∈ error.message, isControl c = false) ∧
    lines error.message = [error.message] ∧
    CommandLine.errorLine (.badConfiguration error) = "Error: ".toList ++ error.message :=
  ⟨fun _ => message_inj, fun _ => isControl_of_mem_message,
    lines_eq_singleton error.message_ne_nil error.newline_not_mem_message,
    CommandLine.errorLine_badConfiguration error⟩

theorem ConfigError.message_identifies_escaped :
    let error : ConfigError := .malformedLine .group 2 "7 is malformed: \"\\\n\u0301\u0085".toList
    let told : Text :=
      "group line 2 is malformed: \"7 is malformed: \\\"\\\\\\n\\u\x7b301\x7d\\u\x7b85\x7d\"".toList
    error.message = told ∧ '\\' ∈ told ∧ isControl '\\' = false := by
  intro error told
  have equal : error.message = told := by decide +kernel
  have member : '\\' ∈ told := by decide
  exact ⟨equal, member, error.message_identifies.2.1 _ (equal ▸ member)⟩

end Supervision
