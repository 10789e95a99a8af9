import Clearance.Decimal.Binary64

/-!
# Shortest decimal text

The fewest decimal digits from which a binary64 magnitude can be read back, and of those the
nearest to it. The decimals that round to a magnitude lie in an interval around it, whose ends
belong to it when the significand is even. For each power of ten, from great to small, the two
multiples next to the magnitude are tried; the first power that has one inside the interval
gives the digits.
-/

set_option autoImplicit false

namespace Clearance

namespace Binary64

/-- The magnitude and the two ends of the interval of decimals that round to it, in quarters of
a unit of the significand: below the magnitude, itself, and above it. The unit below a power of
two is only half as large. -/
def quarters (x : Binary64) : Nat × Nat × Nat :=
  let narrow := x.significand = Nat.pow 2 (precision - 1) ∧ leastExponent < x.exponent
  (4 * x.significand - (if narrow then 1 else 2), 4 * x.significand, 4 * x.significand + 2)

/-- `count` quarters of a unit, in units of `10 ^ power`, as a numerator and a denominator. -/
def quartersInPower (x : Binary64) (count : Nat) (power : Int) : Nat × Nat :=
  let binary := x.exponent - 2
  (count * Nat.pow 2 binary.toNat * Nat.pow 10 (-power).toNat,
    Nat.pow 2 (-binary).toNat * Nat.pow 10 power.toNat)

/-- `n · 10 ^ power` rounds to the magnitude. -/
def readsBack (x : Binary64) (n : Nat) (power : Int) : Bool :=
  let (low, _, high) := x.quarters
  let (lowNum, lowDen) := x.quartersInPower low power
  let (highNum, highDen) := x.quartersInPower high power
  if x.significand % 2 = 0 then lowNum ≤ n * lowDen && n * highDen ≤ highNum
  else lowNum < n * lowDen && n * highDen < highNum

/-- The multiple of `10 ^ power` that is nearest to the magnitude among those that read back. -/
def multiple? (x : Binary64) (power : Int) : Option Nat :=
  let (num, den) := x.quartersInPower x.quarters.2.1 power
  let below := num / den
  let twice := 2 * (num % den)
  let nearAbove := twice > den || (twice == den && below % 2 == 1)
  (if nearAbove then [below + 1, below] else [below, below + 1]).find? (x.readsBack · power)

/-- The digits and the power of ten of the shortest decimal, tried at `power` and below it. -/
def shortestFrom (x : Binary64) : (tries : Nat) → (power : Int) → Nat × Int
  | 0, power => (0, power)
  | tries + 1, power =>
    match x.multiple? power with
    | some n => (n, power)
    | none => x.shortestFrom tries (power - 1)

/-- The shortest decimal `n · 10 ^ power` that reads back, with no zero at the end of `n`. Seventeen
digits always suffice, so twenty powers of ten are enough from just above the magnitude. -/
def shortest (x : Binary64) : Nat × Int :=
  if x.significand = 0 then (0, 0)
  else
    let bits : Int := Nat.log2 x.significand + x.exponent
    x.shortestFrom 20 (Int.fdiv (bits * 30103) 100000 + 1)

/-- The digits of a natural number, most significant first. -/
def digitsOf (n : Nat) : List Char := Nat.toDigits 10 n

/-- The shortest decimal as text. It is positional, with a point and at least one digit on both
sides of it, where the point falls less than five places before the first digit and at most sixteen
behind it; elsewhere it has an exponent. -/
def text (x : Binary64) : List Char :=
  let (n, power) := x.shortest
  let digits := digitsOf n
  let point := digits.length + power
  if x.significand = 0 then ['0', '.', '0']
  else if 0 ≤ power ∧ point ≤ 16 then
    digits ++ List.replicate power.toNat '0' ++ ['.', '0']
  else if 0 < point ∧ point ≤ 16 then
    digits.take point.toNat ++ '.' :: digits.drop point.toNat
  else if -5 < point ∧ point ≤ 0 then
    '0' :: '.' :: (List.replicate (-point).toNat '0' ++ digits)
  else
    let exponent := point - 1
    let sign := if exponent < 0 then ['-'] else []
    let mantissa := match digits with
      | [digit] => [digit]
      | digit :: rest => digit :: '.' :: rest
      | [] => []
    mantissa ++ 'e' :: (sign ++ digitsOf exponent.natAbs)

end Binary64

end Clearance
