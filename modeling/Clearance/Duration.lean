/-!
# Durations

A length of time in whole nanoseconds. Its text uses the largest of the units `s`, `ms`, `µs` and
`ns` of which it holds at least one, with as many decimal places as it takes to be exact.
-/

set_option autoImplicit false

namespace Clearance

/-- A length of time. -/
structure Duration where
  nanoseconds : Nat
  deriving DecidableEq, Repr

namespace Duration

/-- The duration of a number of seconds. -/
def ofSeconds (seconds : Nat) : Duration := ⟨seconds * 1000000000⟩

/-- The duration is no time at all. -/
def isZero (d : Duration) : Bool := d.nanoseconds == 0

/-- `n` in decimal digits, with zeros in front up to `width` digits. -/
def padded (width n : Nat) : List Char :=
  let digits := Nat.toDigits 10 n
  List.replicate (width - digits.length) '0' ++ digits

/-- `n` units of `10 ^ -places` in decimal, without zeros at the end of the fraction. -/
def decimal (places n : Nat) : List Char :=
  let whole := Nat.toDigits 10 (n / Nat.pow 10 places)
  let fraction := (padded places (n % Nat.pow 10 places)).reverse.dropWhile (· == '0') |>.reverse
  if fraction.isEmpty then whole else whole ++ '.' :: fraction

/-- The duration in its largest unit. -/
def text (d : Duration) : String :=
  let n := d.nanoseconds
  if 1000000000 ≤ n then String.ofList (decimal 9 n) ++ "s"
  else if 1000000 ≤ n then String.ofList (decimal 6 n) ++ "ms"
  else if 1000 ≤ n then String.ofList (decimal 3 n) ++ "µs"
  else String.ofList (decimal 0 n) ++ "ns"

end Duration

end Clearance
