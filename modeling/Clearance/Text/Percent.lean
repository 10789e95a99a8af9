/-!
# Percent and form encoding

A percent sign followed by two hexadecimal digits stands for one byte; every other character
stands for the bytes of its UTF-8 form. `percentDecode` reads text written so, and refuses
bytes that are not UTF-8. A percent sign without two such digits stands for itself.

`percentEncode` writes every byte in that way, in upper case, but for the characters that a
caller lets stand. In a form these are letters, digits and the four characters `*`, `-`, `.` and
`_`, and a blank is written as a plus sign.
-/

set_option autoImplicit false

namespace Clearance.Text

/-- The value of a hexadecimal digit in either case. -/
def hexValue? (c : Char) : Option Nat :=
  if '0' ≤ c ∧ c ≤ '9' then some (c.toNat - '0'.toNat)
  else if 'a' ≤ c ∧ c ≤ 'f' then some (c.toNat - 'a'.toNat + 10)
  else if 'A' ≤ c ∧ c ≤ 'F' then some (c.toNat - 'A'.toNat + 10)
  else none

/-- The byte that two hexadecimal digits stand for. -/
def hexByte? (high low : Char) : Option UInt8 := do
  let h ← hexValue? high
  let l ← hexValue? low
  return UInt8.ofNat (16 * h + l)

/-- The bytes that percent-encoded text stands for. -/
def percentBytes : List Char → List UInt8
  | [] => []
  | c :: cs =>
    if c = '%' then
      match cs with
      | high :: low :: rest =>
        match hexByte? high low with
        | some byte => byte :: percentBytes rest
        | none => String.utf8EncodeChar c ++ percentBytes (high :: low :: rest)
      | short => String.utf8EncodeChar c ++ percentBytes short
    else String.utf8EncodeChar c ++ percentBytes cs

/-- The text of `bytes` in UTF-8, if they are that. -/
def ofUtf8? (bytes : List UInt8) : Option String := String.fromUTF8? bytes.toByteArray

/-- The text that percent-encoded text stands for, if its bytes are UTF-8. -/
def percentDecode? (cs : List Char) : Option String := ofUtf8? (percentBytes cs)

/-- The upper-case hexadecimal digit of a number below sixteen. -/
def hexDigit (n : Nat) : Char :=
  if n < 10 then Char.ofNat ('0'.toNat + n) else Char.ofNat ('A'.toNat + (n - 10))

/-- One byte as a percent sign and two digits. -/
def percentByte (b : UInt8) : List Char :=
  ['%', hexDigit (b.toNat / 16), hexDigit (b.toNat % 16)]

/-- Text in which every character that may not stand is written as its percent-encoded bytes. -/
def percentEncode (stands : Char → Bool) (cs : List Char) : List Char :=
  cs.flatMap fun c => if stands c then [c] else (String.utf8EncodeChar c).flatMap percentByte

/-- Characters that stand for themselves in a form. -/
def standsInForm (c : Char) : Bool :=
  c.isAlphanum || c == '*' || c == '-' || c == '.' || c == '_'

/-- A name or a value as it is written in a form. -/
def formEncode (cs : List Char) : List Char :=
  cs.flatMap fun c => if c = ' ' then ['+'] else percentEncode standsInForm [c]

/-- A form with one field. -/
def formField (name value : String) : String :=
  String.ofList (formEncode name.toList ++ '=' :: formEncode value.toList)

end Clearance.Text
