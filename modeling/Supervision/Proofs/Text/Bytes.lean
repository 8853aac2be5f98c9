import Mathlib.Data.List.Basic
import Supervision.Text.Order

/-!
The bytes of a text. The order of texts, code point by code point, is that of their bytes, and a
place in a text is told by the number of bytes before it.
-/

namespace Supervision.Text

def bytes (text : Text) : List UInt8 :=
  text.flatMap String.utf8EncodeChar

theorem toNat_char_lt (c : Char) : c.toNat < 1114112 := by
  have valid := c.valid
  simp only [UInt32.isValidChar, Nat.isValidChar, Char.toNat_val] at valid
  omega

/-- The code of a lower code point is lower, whatever follows both. -/
theorem utf8EncodeChar_append_lt {c d : Char} (less : c.toNat < d.toNat) (left right : List UInt8) :
    String.utf8EncodeChar c ++ left < String.utf8EncodeChar d ++ right := by
  have bound := toNat_char_lt d
  -- The digits of a number in base 64.
  have digits (number : Nat) :
      number / 4096 = number / 64 / 64 ∧ number / 262144 = number / 64 / 64 / 64 := by
    omega
  simp only [String.utf8EncodeChar, Char.toNat_val, digits]
  generalize c.toNat = m at less
  generalize d.toNat = n at less bound
  -- Codes of different lengths differ in the first byte, others where the code points do.
  split_ifs <;>
    simp only [List.cons_append, List.nil_append, List.cons_lt_cons_iff, UInt8.lt_iff_toNat_lt,
      ← UInt8.toNat_inj, UInt8.toNat_ofNat'] <;>
    omega

theorem bytes_cons (c : Char) (text : Text) :
    bytes (c :: text) = String.utf8EncodeChar c ++ bytes text :=
  List.flatMap_cons

theorem nil_lt_bytes_cons (c : Char) (text : Text) : [] < bytes (c :: text) := by
  obtain ⟨first, others, code⟩ := List.exists_cons_of_ne_nil (String.utf8EncodeChar_ne_nil (c := c))
  rw [bytes_cons, code, List.cons_append]
  exact List.nil_lt_cons first (others ++ bytes text)

theorem bytes_lt_of_precedes {left right : Text} (before : precedes left right = true) :
    bytes left < bytes right := by
  induction left generalizing right with
  | nil =>
      cases right with
      | nil => cases before
      | cons d right => exact nil_lt_bytes_cons d right
  | cons c left ih =>
      cases right with
      | nil => cases before
      | cons d right =>
          rw [bytes_cons, bytes_cons]
          by_cases same : c = d
          · subst same
            rw [precedes, if_pos rfl] at before
            exact List.append_left_lt (ih before)
          · rw [precedes, if_neg same, decide_eq_true_eq] at before
            exact utf8EncodeChar_append_lt before _ _

theorem precedes_iff_bytes_lt {left right : Text} :
    precedes left right = true ↔ bytes left < bytes right := by
  refine ⟨bytes_lt_of_precedes, fun less => ?_⟩
  by_contra notBefore
  rw [Bool.not_eq_true] at notBefore
  cases after : precedes right left with
  | true => exact List.lt_asymm less (bytes_lt_of_precedes after)
  | false =>
      rw [eq_of_not_precedes notBefore after] at less
      exact List.lt_irrefl _ less

/-! Places in a text, counted in bytes. -/

def size (text : Text) : Nat :=
  (bytes text).length

@[simp] theorem size_nil : size [] = 0 :=
  rfl

@[simp] theorem size_cons (c : Char) (text : Text) : size (c :: text) = c.utf8Size + size text := by
  rw [size, bytes_cons, List.length_append, String.length_utf8EncodeChar, size]

@[simp] theorem size_append (front rest : Text) : size (front ++ rest) = size front + size rest := by
  rw [size, bytes, List.flatMap_append, List.length_append]
  rfl

theorem size_pos {text : Text} (nonempty : text ≠ []) : 0 < size text := by
  cases text with
  | nil => exact absurd rfl nonempty
  | cons c text =>
      have width := c.utf8Size_pos
      rw [size_cons]
      omega

/-- What is left of the text after so many bytes, unless they end inside a character. -/
def afterBytes : Nat → Text → Option Text
  | 0, text => some text
  | _ + 1, [] => none
  | count + 1, c :: text =>
      if c.utf8Size ≤ count + 1 then afterBytes (count + 1 - c.utf8Size) text else none

theorem afterBytes_size (front rest : Text) : afterBytes (size front) (front ++ rest) = some rest := by
  induction front with
  | nil => rw [size_nil, afterBytes, List.nil_append]
  | cons c front ih =>
      obtain ⟨count, sized⟩ : ∃ count, size (c :: front) = count + 1 :=
        Nat.exists_eq_add_one.mpr (size_pos (by simp))
      have others : count + 1 - c.utf8Size = size front := by
        rw [← sized, size_cons, Nat.add_sub_cancel_left]
      have within : c.utf8Size ≤ count + 1 := by
        rw [← sized, size_cons]
        exact Nat.le_add_right _ _
      rw [sized, List.cons_append, afterBytes, if_pos within, others, ih]

end Supervision.Text
