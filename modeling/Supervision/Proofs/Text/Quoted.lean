import Mathlib.Data.List.Basic
import Supervision.Text.Quoted
import Supervision.Text.Split
import Supervision.Toml.String

/-!
Quoted texts: the escape of a character is read back whatever follows it, so that a quoted text ends
where it ends and nowhere else. Everything in it is printable.
-/

namespace Supervision.Text

open Toml (hexValue numberOf)

variable {c : Char} {base number : Nat} {text other rest otherRest : Text}

/-! Numbers in digits. -/

theorem hexValue_digitChar {digit : Nat} (small : digit < 16) :
    hexValue digit.digitChar = digit := by
  revert small digit
  decide

theorem numberOf_toDigits (least : 1 < base) (greatest : base ≤ 16) (number : Nat) :
    numberOf base (base.toDigits number) = number := by
  induction number using Nat.strongRecOn with
  | ind number ih =>
      by_cases single : number < base
      · rw [Nat.toDigits_of_lt_base single, numberOf, List.foldl_cons, List.foldl_nil,
          Nat.mul_zero, Nat.zero_add, hexValue_digitChar (by omega)]
      · have less : number / base < number := Nat.div_lt_self (by omega) least
        have last := hexValue_digitChar (Nat.lt_of_lt_of_le (Nat.mod_lt number (by omega)) greatest)
        have front := ih (number / base) less
        rw [numberOf] at front
        rw [Nat.toDigits_of_base_le least (by omega), numberOf, List.foldl_append, front,
          List.foldl_cons, List.foldl_nil, last, Nat.div_add_mod]

theorem exists_digitChar_of_mem_toDigits (least : 1 < base) (member : c ∈ base.toDigits number) :
    ∃ digit < base, c = digit.digitChar := by
  induction number using Nat.strongRecOn with
  | ind number ih =>
      by_cases single : number < base
      · rw [Nat.toDigits_of_lt_base single] at member
        exact ⟨number, single, List.mem_singleton.mp member⟩
      · have less : number / base < number := Nat.div_lt_self (by omega) least
        rw [Nat.toDigits_of_base_le least (by omega)] at member
        rcases List.mem_append.mp member with front | last
        · exact ih _ less front
        · exact ⟨number % base, Nat.mod_lt _ (by omega), List.mem_singleton.mp last⟩

theorem ofNat_inj {other : Nat} : ofNat number = ofNat other ↔ number = other := by
  refine ⟨fun same => ?_, fun same => by rw [same]⟩
  have read := congrArg (numberOf 10) same
  rwa [ofNat, ofNat, numberOf_toDigits (by omega) (by omega),
    numberOf_toDigits (by omega) (by omega)] at read

/-- The digits of a number end where a character comes that is none. -/
theorem ofNat_append_inj {other : Nat} (apart : c.isDigit = false)
    (same : ofNat number ++ c :: rest = ofNat other ++ c :: otherRest) :
    number = other ∧ rest = otherRest := by
  have digits : ∀ number : Nat, ∀ d ∈ ofNat number, d.isDigit = true := fun _ _ member =>
    Nat.isDigit_of_mem_toDigits (Nat.succ_pos 9) (Nat.le_refl 10) member
  have stops : ∀ rest : Text, ∀ d ∈ (c :: rest).head?, d.isDigit = false := by simpa using apart
  obtain ⟨first, firstRest⟩ := takeWhile_dropWhile_iff.mpr ⟨rfl, digits number, stops rest⟩
  obtain ⟨second, secondRest⟩ := takeWhile_dropWhile_iff.mpr ⟨same, digits other, stops otherRest⟩
  exact ⟨ofNat_inj.mp (first.symm.trans second),
    (List.cons.inj (firstRest.symm.trans secondRest)).2⟩

/-! Reading back. -/

/-- Reads one character of a quoted text. The quote that ends the text is none. -/
def unescape : Reader Char
  | '\\' :: 'u' :: '\x7b' :: rest =>
      (splitOnce '\x7d' rest).map fun halves => (Char.ofNat (numberOf 16 halves.1), halves.2)
  | '\\' :: mark :: rest =>
      if mark = 't' then some ('\t', rest)
      else if mark = 'r' then some ('\r', rest)
      else if mark = 'n' then some ('\n', rest)
      else if mark = '0' then some ('\x00', rest)
      else some (mark, rest)
  | '"' :: _ => none
  | c :: rest => some (c, rest)
  | [] => none

theorem not_mem_hexDigits (apart : ∀ digit < 16, digit.digitChar ≠ c) (number : Nat) :
    c ∉ hexDigits number := by
  intro member
  obtain ⟨digit, small, rfl⟩ := exists_digitChar_of_mem_toDigits (by omega) member
  exact apart digit small rfl

theorem unescape_escapeChar_append (c : Char) (rest : Text) :
    unescape (escapeChar c ++ rest) = some (c, rest) := by
  unfold escapeChar
  split_ifs with quote backslash tab carriage feed null printable
  case pos => subst quote; rfl
  case pos => subst backslash; rfl
  case pos => subst tab; rfl
  case pos => subst carriage; rfl
  case pos => subst feed; rfl
  case pos => subst null; rfl
  case pos => simp [unescape, backslash]
  case neg =>
    have closed : splitOnce '\x7d' (hexDigits c.toNat ++ '\x7d' :: rest) =
        some (hexDigits c.toNat, rest) :=
      splitOnce_eq_some_iff.mpr ⟨not_mem_hexDigits (by decide) c.toNat, rfl⟩
    have read : numberOf 16 (hexDigits c.toNat) = c.toNat :=
      numberOf_toDigits (by omega) (by omega) c.toNat
    simp [unescape, closed, read]

theorem flatMap_escapeChar_append_inj
    (same : text.flatMap escapeChar ++ '"' :: rest = other.flatMap escapeChar ++ '"' :: otherRest) :
    text = other ∧ rest = otherRest := by
  have ended : ∀ {c : Char} {text rest otherRest : Text},
      (c :: text).flatMap escapeChar ++ '"' :: rest ≠ '"' :: otherRest := by
    intro c text rest otherRest equal
    have read := congrArg unescape equal
    rw [List.flatMap_cons, List.append_assoc, unescape_escapeChar_append] at read
    cases read
  induction text generalizing other with
  | nil =>
      cases other with
      | nil => exact ⟨rfl, (List.cons.inj same).2⟩
      | cons d other => exact absurd same.symm ended
  | cons c text ih =>
      cases other with
      | nil => exact absurd same ended
      | cons d other =>
          have read := congrArg unescape same
          rw [List.flatMap_cons, List.flatMap_cons, List.append_assoc, List.append_assoc,
            unescape_escapeChar_append, unescape_escapeChar_append, Option.some.injEq,
            Prod.mk.injEq] at read
          obtain ⟨rfl, later⟩ := read
          obtain ⟨rfl, equal⟩ := ih later
          exact ⟨rfl, equal⟩

theorem quoted_append_inj :
    quoted text ++ rest = quoted other ++ otherRest ↔ text = other ∧ rest = otherRest := by
  constructor
  · intro same
    simp only [quoted, List.cons_append, List.append_assoc, List.nil_append, List.cons.injEq,
      true_and] at same
    exact flatMap_escapeChar_append_inj same
  · rintro ⟨rfl, rfl⟩
    rfl

theorem quoted_inj : quoted text = quoted other ↔ text = other := by
  have whole : quoted text ++ [] = quoted other ++ [] ↔ text = other ∧ ([] : Text) = [] :=
    quoted_append_inj
  simpa using whole

/-! What is in it. -/

def isControl (c : Char) : Bool :=
  decide (c.toNat < 0x20) || decide (0x7F ≤ c.toNat) && decide (c.toNat ≤ 0x9F)

theorem isControl_of_isPrintable (printable : isPrintable c = true) : isControl c = false := by
  rw [isControl, Bool.or_eq_false_iff, Bool.and_eq_false_iff]
  simp only [decide_eq_false_iff_not]
  unfold isPrintable at printable
  split at printable
  case isTrue ascii =>
    have least := of_decide_eq_true printable
    omega
  case isFalse beyond =>
    refine ⟨by omega, Or.inr fun control => ?_⟩
    have outside := ((Bool.and_eq_true _ _).mp printable).2
    have inside : inRanges unprintableRanges c = true := by
      refine List.any_eq_true.mpr ⟨(0x7F, 0xA0), List.mem_cons_self, ?_⟩
      simp only [Bool.and_eq_true, decide_eq_true_eq]
      omega
    rw [inside] at outside
    cases outside

theorem all_isPrintable_toDigits (least : 1 < base) (greatest : base ≤ 16) (number : Nat) :
    (base.toDigits number).all isPrintable = true := by
  have digits : ∀ digit < 16, isPrintable digit.digitChar = true := by decide
  refine List.all_eq_true.mpr fun c member => ?_
  obtain ⟨digit, small, rfl⟩ := exists_digitChar_of_mem_toDigits least member
  exact digits digit (by omega)

theorem all_isPrintable_escapeChar (c : Char) : (escapeChar c).all isPrintable = true := by
  unfold escapeChar
  split_ifs with quote backslash tab carriage feed null printable
  case pos => decide
  case pos => decide
  case pos => decide
  case pos => decide
  case pos => decide
  case pos => decide
  case pos => simpa using printable
  case neg =>
    have digits : (hexDigits c.toNat).all isPrintable = true :=
      all_isPrintable_toDigits (by omega) (by omega) c.toNat
    rw [List.all_append, List.all_append, digits]
    decide

theorem all_isPrintable_quoted (text : Text) : (quoted text).all isPrintable = true := by
  have escaped : (text.flatMap escapeChar).all isPrintable = true := by
    rw [List.all_flatMap]
    exact List.all_eq_true.mpr fun c _ => all_isPrintable_escapeChar c
  rw [quoted, List.cons_append, List.all_cons, List.all_append, escaped]
  decide

end Supervision.Text
