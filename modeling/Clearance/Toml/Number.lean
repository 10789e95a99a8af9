import Clearance.Text.Basic
import Clearance.Toml.Text

/-!
# TOML numbers and points in time

Integers in four bases, numbers with a fraction, and points in time. A single underscore may stand
between two digits. Integers must fit in 64 bits with a sign; a number with a fraction must not be
beyond the greatest binary64 number, unless it is negative.

Of fractions and points in time only the form is checked.
-/

set_option autoImplicit false

namespace Clearance.Toml

/-- The digits at the start of the characters, with single underscores between them dropped. -/
def digitRun (isDigit : Char → Bool) : List Char → List Char × List Char
  | [] => ([], [])
  | c :: cs =>
    if isDigit c then
      let (digits, rest) := digitRun isDigit cs
      (c :: digits, rest)
    else if c = '_' ∧ cs.head?.any isDigit then digitRun isDigit cs
    else ([], c :: cs)

/-- A run of digits that starts with a digit. -/
def digits? (isDigit : Char → Bool) : Phrase (List Char)
  | c :: cs => if isDigit c then some (digitRun isDigit (c :: cs)) else none
  | [] => none

/-- The sign at the start of the characters: `true` for a minus. -/
def sign : List Char → Bool × List Char
  | '-' :: cs => (true, cs)
  | '+' :: cs => (false, cs)
  | cs => (false, cs)

/-- The digits of a decimal integer, without a leading zero. -/
def wholeDigits? : Phrase (List Char)
  | '0' :: cs => some (['0'], cs)
  | cs => digits? Char.isDigit cs

/-- An integer that fits in 64 bits with a sign. -/
def fitting? (n : Int) : Option Int :=
  if -Int.pow 2 63 ≤ n ∧ n < Int.pow 2 63 then some n else none

/-- The number that digits make in a base. -/
def valueInBase (base : Nat) (digits : List Char) : Nat :=
  digits.foldl (fun n c => base * n + (Text.hexValue? c).getD 0) 0

/-- An integer in a base other than ten, behind its mark. -/
def based? (base : Nat) (cs : List Char) : Option (Int × List Char) := do
  let (digits, rest) ← digits? (fun c => (Text.hexValue? c).any (· < base)) cs
  return (← fitting? (valueInBase base digits), rest)

/-- A decimal integer. -/
def decimal? (cs : List Char) : Option (Int × List Char) := do
  let (negative, unsigned) := sign cs
  let (digits, rest) ← wholeDigits? unsigned
  let size : Int := Text.valueOfDigits digits
  return (← fitting? (if negative then -size else size), rest)

/-- An integer in any base. -/
def integer? : Phrase Int
  | '0' :: 'x' :: cs => based? 16 cs
  | '0' :: 'o' :: cs => based? 8 cs
  | '0' :: 'b' :: cs => based? 2 cs
  | cs => decimal? cs

/-- The exponent of a number, where there is one. -/
def exponent? : List Char → Option (Option Int × List Char)
  | c :: cs =>
    if c = 'e' ∨ c = 'E' then do
      let (negative, unsigned) := sign cs
      let (digits, rest) ← digits? Char.isDigit unsigned
      let size : Int := Text.valueOfDigits digits
      return (some (if negative then -size else size), rest)
    else some (none, c :: cs)
  | [] => some (none, [])

/-- The digits of a fraction, where there is one. -/
def fraction? : List Char → Option (Option (List Char) × List Char)
  | '.' :: cs => (digits? Char.isDigit cs).map fun parts => (some parts.1, parts.2)
  | cs => some (none, cs)

/-- The least magnitude that rounds beyond the greatest binary64 number. -/
def overflow : Nat := Nat.pow 2 1024 - Nat.pow 2 970

/-- `digits · 10 ^ power` rounds to a binary64 number, where `digits` has `count` digits. -/
def isFinite (digits count : Nat) (power : Int) : Bool :=
  if digits = 0 then true
  else if 400 < power then false
  else if 0 ≤ power then digits * Nat.pow 10 power.toNat < overflow
  else if count ≤ (-power).toNat then true
  else digits < overflow * Nat.pow 10 (-power).toNat

/-- A number with a fraction or an exponent, or one of the names for what is no finite number. -/
def fractional? (cs : List Char) : Option (Unit × List Char) := do
  let (negative, unsigned) := sign cs
  match unsigned with
  | 'i' :: 'n' :: 'f' :: rest => return ((), rest)
  | 'n' :: 'a' :: 'n' :: rest => return ((), rest)
  | _ =>
    let (whole, afterWhole) ← wholeDigits? unsigned
    let (fraction, afterFraction) ← fraction? afterWhole
    let (exponent, rest) ← exponent? afterFraction
    let digits := whole ++ fraction.getD []
    let power := exponent.getD 0 - (fraction.getD []).length
    if fraction.isNone && exponent.isNone then none
    else if negative || isFinite (Text.valueOfDigits digits) digits.length power then
      return ((), rest)
    else none

/-- A number of exactly `count` digits within bounds. -/
def field? (count least greatest : Nat) : Phrase Nat := fun cs =>
  let digits := cs.take count
  let n := Text.valueOfDigits digits
  if digits.length = count ∧ digits.all Char.isDigit ∧ least ≤ n ∧ n ≤ greatest then
    some (n, cs.drop count)
  else none

/-- What follows a character that must come next. -/
def expect? (c : Char) : List Char → Option (List Char)
  | [] => none
  | d :: cs => if d = c then some cs else none

/-- The number of days in a month. -/
def daysIn (year month : Nat) : Nat :=
  if month = 2 then
    if year % 4 = 0 ∧ (year % 100 ≠ 0 ∨ year % 400 = 0) then 29 else 28
  else if month = 4 ∨ month = 6 ∨ month = 9 ∨ month = 11 then 30
  else 31

/-- What follows a date. -/
def date? (cs : List Char) : Option (List Char) := do
  let (year, afterYear) ← field? 4 0 9999 cs
  let (month, afterMonth) ← field? 2 1 12 (← expect? '-' afterYear)
  let (_, rest) ← field? 2 1 (daysIn year month) (← expect? '-' afterMonth)
  return rest

/-- What follows a time of day. -/
def time? (cs : List Char) : Option (List Char) := do
  let (_, afterHour) ← field? 2 0 23 cs
  let (_, afterMinute) ← field? 2 0 59 (← expect? ':' afterHour)
  let (_, rest) ← field? 2 0 60 (← expect? ':' afterMinute)
  match rest with
  | '.' :: c :: more => if c.isDigit then return more.dropWhile Char.isDigit else none
  | '.' :: [] => none
  | _ => return rest

/-- What follows the distance from universal time, where it is given. -/
def offset? : List Char → Option (List Char)
  | [] => some []
  | c :: cs =>
    if c = 'Z' ∨ c = 'z' then some cs
    else if c = '+' ∨ c = '-' then do
      let (_, afterHour) ← field? 2 0 23 cs
      let (_, rest) ← field? 2 0 59 (← expect? ':' afterHour)
      return rest
    else some (c :: cs)

/-- What follows a point in time: a date, a time of day, or both. -/
def moment? (cs : List Char) : Option (List Char) :=
  match date? cs with
  | none => time? cs
  | some [] => some []
  | some (c :: rest) =>
    if c = 'T' ∨ c = 't' ∨ c = ' ' then
      match time? rest with
      | some afterTime => offset? afterTime
      | none => some (c :: rest)
    else some (c :: rest)

end Clearance.Toml
