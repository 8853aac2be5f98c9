import Supervision.Text.Basic

/-!
The order of texts, code point by code point. Of two texts one comes first unless they are equal.
-/

namespace Supervision.Text

/-- A beginning comes before what continues it. -/
def precedes : Text → Text → Bool
  | _, [] => false
  | [], _ :: _ => true
  | c :: left, d :: right =>
      if c = d then precedes left right else decide (c.toNat < d.toNat)

theorem precedes_irrefl (text : Text) : precedes text text = false := by
  induction text with
  | nil => rfl
  | cons c text ih => simp [precedes, ih]

theorem precedes_trans {first second third : Text} (before : precedes first second = true)
    (after : precedes second third = true) : precedes first third = true := by
  induction first generalizing second third with
  | nil =>
      cases third with
      | nil => cases second <;> simp [precedes] at after
      | cons e third => rfl
  | cons c first ih =>
      cases second with
      | nil => simp [precedes] at before
      | cons d second =>
          cases third with
          | nil => simp [precedes] at after
          | cons e third =>
              simp only [precedes] at before after ⊢
              by_cases left : c = d
              · subst left
                simp only [↓reduceIte] at before
                by_cases right : c = e
                · subst right
                  simp only [↓reduceIte] at after ⊢
                  exact ih before after
                · simp only [right, ↓reduceIte] at after ⊢
                  exact after
              · simp only [left, ↓reduceIte, decide_eq_true_eq] at before
                by_cases right : d = e
                · subst right
                  simp only [left, ↓reduceIte, decide_eq_true_eq]
                  exact before
                · simp only [right, ↓reduceIte, decide_eq_true_eq] at after
                  have different : c ≠ e := by
                    intro same
                    subst same
                    omega
                  simp only [different, ↓reduceIte, decide_eq_true_eq]
                  omega

theorem eq_of_not_precedes {left right : Text} (notBefore : precedes left right = false)
    (notAfter : precedes right left = false) : left = right := by
  induction left generalizing right with
  | nil =>
      cases right with
      | nil => rfl
      | cons d right => simp [precedes] at notBefore
  | cons c left ih =>
      cases right with
      | nil => simp [precedes] at notAfter
      | cons d right =>
          by_cases same : c = d
          · subst same
            simp only [precedes, ↓reduceIte] at notBefore notAfter
            rw [ih notBefore notAfter]
          · have other : ¬d = c := fun reversed => same reversed.symm
            simp only [precedes, same, other, ↓reduceIte, decide_eq_false_iff_not] at notBefore notAfter
            exact absurd (Char.ext (UInt32.toNat_inj.mp (by
              change c.toNat = d.toNat
              omega))) same

def notAfter (left right : Text) : Bool :=
  !precedes right left

end Supervision.Text
