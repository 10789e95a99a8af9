import Clearance.Json.Value

/-!
# JSON numerals

A numeral is an integer part without a leading zero, then perhaps a point with digits after it,
then perhaps an exponent. It keeps at most as many digits as fit in 64 bits: an integer digit that
does not fit any more counts as a factor of ten, a fraction digit that does not fit is dropped,
and so are those after it.

A numeral without point and exponent is an integer if it fits; all others are binary64 numbers,
and so is minus zero. A number beyond the greatest binary64 number is refused.
-/

set_option autoImplicit false

namespace Clearance.Json

/-- The value of a decimal digit. -/
def digitValue (c : Char) : Nat := c.toNat - '0'.toNat

/-- One more than the greatest number that the digits of a numeral can make. -/
def digitCapacity : Nat := Nat.pow 2 64

/-- The number that digits make when they follow `acc`, and the first of them that no longer fit. -/
def takeFitting (acc : Nat) : List Char → Nat × List Char
  | [] => (acc, [])
  | c :: cs =>
    let next := 10 * acc + digitValue c
    if next < digitCapacity then takeFitting next cs else (acc, c :: cs)

/-- A numeral, cut into its parts. -/
structure Numeral where
  negative : Bool
  /-- The digits before the point. -/
  whole : List Char
  /-- The digits behind the point, if there is one. -/
  fraction : Option (List Char)
  /-- The sign and the digits of the exponent, if there is one. -/
  exponent : Option (Bool × List Char)

namespace Numeral

/-- The digits at the start of `cs`, of which there must be one, and what follows them. -/
def digits? (cs : List Char) : Option (List Char × List Char) :=
  match cs.takeWhile Char.isDigit with
  | [] => none
  | digits => some (digits, cs.dropWhile Char.isDigit)

/-- The part behind a point. -/
def fraction? : List Char → Option (Option (List Char) × List Char)
  | '.' :: cs => (digits? cs).map fun parts => (some parts.1, parts.2)
  | cs => some (none, cs)

/-- The sign at the start of an exponent, and what follows it. -/
def exponentSign : List Char → Bool × List Char
  | '-' :: cs => (true, cs)
  | '+' :: cs => (false, cs)
  | cs => (false, cs)

/-- The part behind an `e`. -/
def exponent? : List Char → Option (Option (Bool × List Char) × List Char)
  | c :: cs =>
    if c = 'e' ∨ c = 'E' then
      (digits? (exponentSign cs).2).map fun parts => (some ((exponentSign cs).1, parts.1), parts.2)
    else some (none, c :: cs)
  | [] => some (none, [])

/-- The numeral at the start of `cs`, where `negative` says that a minus sign went before, and what
follows it. -/
def read? (negative : Bool) (cs : List Char) : Option (Numeral × List Char) := do
  let (whole, afterWhole) ← digits? cs
  if whole.head? = some '0' ∧ whole.length ≠ 1 then none
  else
    let (fraction, afterFraction) ← fraction? afterWhole
    let (exponent, rest) ← exponent? afterFraction
    return (⟨negative, whole, fraction, exponent⟩, rest)

/-- The number that a digit sequence makes. -/
def valueOf (digits : List Char) : Nat := digits.foldl (fun n c => 10 * n + digitValue c) 0

/-- The exponent as an integer. -/
def power (n : Numeral) : Int :=
  match n.exponent with
  | none => 0
  | some (negative, digits) => if negative then -valueOf digits else valueOf digits

/-- The digits that are kept and the power of ten that they are multiplied by. -/
def scaled (n : Numeral) : Nat × Int :=
  let (whole, dropped) := takeFitting 0 n.whole
  let fraction := n.fraction.getD []
  let (kept, unused) := takeFitting whole fraction
  (kept, (dropped.length : Int) - (fraction.length - unused.length : Nat) + n.power)

/-- The number is written as an integer. -/
def isPlain (n : Numeral) : Bool := n.fraction.isNone && n.exponent.isNone

/-- The integer that a plain numeral denotes, if it is kept as one. -/
def integer? (n : Numeral) : Option Int :=
  let size : Int := valueOf n.whole
  let value := if n.negative then -size else size
  if n.isPlain ∧ leastInteger ≤ value ∧ value ≤ greatestInteger ∧ ¬(n.negative ∧ value = 0) then
    some value
  else none

/-- The number that a numeral denotes, if it is in range. -/
def number? (n : Numeral) : Option Number :=
  match n.integer? with
  | some value => some (.integer value)
  | none => (Binary64.ofDecimal? n.scaled.1 n.scaled.2).map (.real n.negative)

end Numeral

end Clearance.Json
