import Supervision.Text.Basic

/-!
Binary floating-point numbers of 64 bits, as exact fractions. A decimal is rounded to the nearest
number, and a number is written with the fewest digits that are read back as the same number.
-/

namespace Supervision

/-- A finite number is its significand times two to its exponent. -/
inductive Binary64 where
  | nan
  | infinite (negative : Bool)
  | finite (negative : Bool) (significand : Nat) (exponent : Int)
  deriving DecidableEq

namespace Binary64

open Text

def precision : Nat := 53

def significandLimit : Nat := Nat.pow 2 precision

def leastExponent : Int := -1074

def greatestExponent : Int := 971

def scaled (base numerator denominator : Nat) : Int → Nat × Nat
  | .ofNat power => (numerator * Nat.pow base power, denominator)
  | .negSucc power => (numerator, denominator * Nat.pow base (power + 1))

/-- The nearest whole number; of two, the even one. -/
def roundHalfEven (numerator denominator : Nat) : Nat :=
  let floor := numerator / denominator
  let twice := 2 * (numerator % denominator)
  if twice < denominator then floor
  else if denominator < twice then floor + 1
  else floor + floor % 2

def exponentOf (numerator denominator : Nat) : Int :=
  let guess := (numerator.log2 : Int) - denominator.log2 - precision
  let (top, bottom) := scaled 2 numerator denominator (-guess)
  let exponent := if top / bottom < significandLimit then guess else guess + 1
  if exponent < leastExponent then leastExponent else exponent

def nearest (negative : Bool) (numerator denominator : Nat) : Binary64 :=
  if numerator = 0 then .finite negative 0 leastExponent
  else
    let exponent := exponentOf numerator denominator
    let (top, bottom) := scaled 2 numerator denominator (-exponent)
    let rounded := roundHalfEven top bottom
    let (significand, exponent) :=
      if rounded < significandLimit then (rounded, exponent) else (rounded / 2, exponent + 1)
    if greatestExponent < exponent then .infinite negative
    else .finite negative significand exponent

/-- The number nearest to a decimal. A magnitude far out of range is not computed. -/
def ofDecimal (negative : Bool) (coefficient : Nat) (exponent : Int) : Binary64 :=
  let size : Int := (Nat.toDigits 10 coefficient).length + exponent
  if coefficient = 0 ∨ size < -400 then .finite negative 0 leastExponent
  else if 400 < size then .infinite negative
  else
    let (top, bottom) := scaled 10 coefficient 1 exponent
    nearest negative top bottom

/-- The fractions that are rounded to a positive number: those between two bounds, which belong to
them if the significand is even. All three are over one denominator. -/
structure Interval where
  lower : Nat
  value : Nat
  upper : Nat
  denominator : Nat
  closed : Bool

def interval (significand : Nat) (exponent : Int) : Interval :=
  let step := if 2 * significand = significandLimit ∧ leastExponent < exponent then 1 else 2
  let (unit, denominator) := scaled 2 1 4 exponent
  { lower := (4 * significand - step) * unit
    value := 4 * significand * unit
    upper := (4 * significand + 2) * unit
    denominator
    closed := significand % 2 == 0 }

def Interval.holds (interval : Interval) (multiple : Nat) (power : Int) : Bool :=
  let (top, bottom) := scaled 10 multiple 1 power
  let point := top * interval.denominator
  if interval.closed then
    decide (interval.lower * bottom ≤ point) && decide (point ≤ interval.upper * bottom)
  else decide (interval.lower * bottom < point) && decide (point < interval.upper * bottom)

/-- The multiple of a power of ten in the interval that is nearest to its value; of two, the
greater. -/
def Interval.onGrid (interval : Interval) (power : Int) : Option Nat :=
  let (top, bottom) := scaled 10 interval.value interval.denominator (-power)
  let floor := top / bottom
  match interval.holds floor power, interval.holds (floor + 1) power with
  | true, true => if 2 * (top % bottom) < bottom then some floor else some (floor + 1)
  | true, false => some floor
  | false, true => some (floor + 1)
  | false, false => none

/-- Tries ever finer grids until a point of one lies in the interval. -/
def Interval.coarsest (interval : Interval) : Nat → Int → Option (Nat × Int)
  | 0, _ => none
  | attempts + 1, power =>
      match interval.onGrid power with
      | some multiple => some (multiple, power)
      | none => coarsest interval attempts (power - 1)

def shortest (significand : Nat) (exponent : Int) : Nat × Int :=
  let range := interval significand exponent
  let first := (Nat.toDigits 10 (range.value / range.denominator)).length
  (range.coarsest (first + 1100) first).getD (0, 0)

def positional (coefficient : Nat) : Int → Text
  | .ofNat power => ofNat coefficient ++ List.replicate power '0'
  | .negSucc power =>
      let places := power + 1
      let digits := ofNat coefficient
      let padded := List.replicate (places + 1 - digits.length) '0' ++ digits
      padded.take (padded.length - places) ++ '.' :: padded.drop (padded.length - places)

def text : Binary64 → Text
  | .nan => "NaN"
  | .infinite negative => if negative then "-inf" else "inf"
  | .finite negative significand exponent =>
      let magnitude : Text :=
        if significand = 0 then ['0']
        else positional (shortest significand exponent).1 (shortest significand exponent).2
      if negative then '-' :: magnitude else magnitude

end Binary64

end Supervision
