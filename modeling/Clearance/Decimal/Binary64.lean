/-!
# Binary64 magnitudes

The finite magnitudes of the binary64 format, `significand · 2 ^ exponent`, and the one rounding
rule: a ratio of naturals goes to the nearest magnitude, and to the one with the even significand
when two are equally near. `ofDecimal?` is how a decimal numeral becomes a magnitude: its digits
are rounded first, and then their product with, or their quotient by, a rounded power of ten.

All of it is arithmetic on naturals and integers.
-/

set_option autoImplicit false

namespace Clearance

/-- A finite magnitude. It is normal: the significand has 53 bits, or the exponent is least. -/
structure Binary64 where
  significand : Nat
  exponent : Int
  deriving DecidableEq, Repr

namespace Binary64

/-- The least exponent of a magnitude. -/
def leastExponent : Int := -1074

/-- The greatest exponent of a finite magnitude. -/
def greatestExponent : Int := 971

/-- The number of bits of a significand. -/
def precision : Nat := 53

/-- The magnitude zero. -/
def zero : Binary64 := ⟨0, leastExponent⟩

/-- The ratio `num / den` in units of `2 ^ exponent`, as a numerator and a denominator. -/
def inUnits (num den : Nat) (exponent : Int) : Nat × Nat :=
  if 0 ≤ exponent then (num, den * Nat.pow 2 exponent.toNat)
  else (num * Nat.pow 2 (-exponent).toNat, den)

/-- The integer nearest to `num / den`, the even one of two. -/
def roundHalfEven (num den : Nat) : Nat :=
  let quotient := num / den
  let twice := 2 * (num % den)
  if twice > den ∨ (twice = den ∧ quotient % 2 = 1) then quotient + 1 else quotient

/-- The exponent at which the magnitude of `num / den` has a significand of 53 bits, or the least
exponent if that is greater. -/
def exponentOf (num den : Nat) : Int :=
  let guess : Int := (Nat.log2 num : Int) - (Nat.log2 den : Int) - precision
  let units := inUnits num den guess
  max leastExponent (if units.1 / units.2 < Nat.pow 2 precision then guess else guess + 1)

/-- The magnitude nearest to `num / den`, or `none` where that is beyond the greatest one. -/
def ofRatio? (num den : Nat) : Option Binary64 :=
  if num = 0 then some zero
  else
    let exponent := exponentOf num den
    let units := inUnits num den exponent
    let significand := roundHalfEven units.1 units.2
    let rounded : Binary64 :=
      if significand = Nat.pow 2 precision then ⟨Nat.pow 2 (precision - 1), exponent + 1⟩
      else ⟨significand, exponent⟩
    if rounded.exponent > greatestExponent then none else some rounded

/-- The magnitude as a numerator and a denominator. -/
def ratio (x : Binary64) : Nat × Nat :=
  if 0 ≤ x.exponent then (x.significand * Nat.pow 2 x.exponent.toNat, 1)
  else (x.significand, Nat.pow 2 (-x.exponent).toNat)

/-- The rounded product, if it is finite. -/
def mul? (x y : Binary64) : Option Binary64 :=
  ofRatio? (x.ratio.1 * y.ratio.1) (x.ratio.2 * y.ratio.2)

/-- The rounded quotient, if it is finite. -/
def div? (x y : Binary64) : Option Binary64 :=
  ofRatio? (x.ratio.1 * y.ratio.2) (x.ratio.2 * y.ratio.1)

/-- The greatest power of ten among the magnitudes, as an exponent of ten. -/
def greatestPower : Nat := 308

/-- The rounded power of ten, if it is finite. -/
def tenTo? (n : Nat) : Option Binary64 := ofRatio? (Nat.pow 10 n) 1

/-- Divides by a power of ten, in steps that are powers of ten themselves; zero stays zero. -/
def scaleDown (x : Binary64) (n : Nat) : Option Binary64 :=
  if n ≤ greatestPower then do x.div? (← tenTo? n)
  else if x.significand = 0 then some x
  else do
    let smaller ← x.div? (← tenTo? greatestPower)
    smaller.scaleDown (n - greatestPower)
termination_by n
decreasing_by all_goals simp only [greatestPower] at *; omega

/-- The magnitude of the numeral `digits · 10 ^ power`: the digits rounded, then scaled by a power
of ten with one more rounding. -/
def ofDecimal? (digits : Nat) (power : Int) : Option Binary64 := do
  let x ← ofRatio? digits 1
  if power < 0 then x.scaleDown (-power).toNat
  else if power.toNat ≤ greatestPower then do x.mul? (← tenTo? power.toNat)
  else if digits = 0 then some x
  else none

end Binary64

end Clearance
