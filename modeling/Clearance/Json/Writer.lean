import Clearance.Decimal.Shortest
import Clearance.Json.Value

/-!
# Writing JSON

`Value.print` writes a value on one line without blanks, `Value.printPretty` one item or field to
a line, indented by two blanks for each level. In strings only the quote, the backslash and the
control characters below the blank are escaped.
-/

set_option autoImplicit false

namespace Clearance.Json

/-- A hexadecimal digit in lower case. -/
def hexDigitLower (n : Nat) : Char := Nat.digitChar (n % 16)

/-- One character of a string as it is written. -/
def escapeChar (c : Char) : List Char :=
  if c = '"' then ['\\', '"']
  else if c = '\\' then ['\\', '\\']
  else if c = '\x08' then ['\\', 'b']
  else if c = '\x0c' then ['\\', 'f']
  else if c = '\n' then ['\\', 'n']
  else if c = '\r' then ['\\', 'r']
  else if c = '\t' then ['\\', 't']
  else if c.toNat < 0x20 then
    ['\\', 'u', '0', '0', hexDigitLower (c.toNat / 16), hexDigitLower c.toNat]
  else [c]

/-- A string in quotes. -/
def quote (s : String) : List Char := '"' :: (s.toList.flatMap escapeChar ++ ['"'])

/-- A number: integers plainly, others in their shortest form. -/
def Number.print : Number → List Char
  | .integer n => if n < 0 then '-' :: Binary64.digitsOf n.natAbs else Binary64.digitsOf n.natAbs
  | .real negative x => if negative then '-' :: x.text else x.text

/-- Parts with a separator between them. -/
def joinWith (separator : List Char) (parts : List (List Char)) : List Char :=
  (parts.intersperse separator).flatten

mutual

/-- The characters of a value on one line. -/
def Value.chars : Value → List Char
  | .null => ['n', 'u', 'l', 'l']
  | .bool true => ['t', 'r', 'u', 'e']
  | .bool false => ['f', 'a', 'l', 's', 'e']
  | .number n => n.print
  | .string s => quote s
  | .array items => '[' :: (joinWith [','] (itemChars items) ++ [']'])
  | .object fields => '\x7b' :: (joinWith [','] (fieldChars fields) ++ ['\x7d'])

/-- The items of an array, each on one line. -/
def itemChars : List Value → List (List Char)
  | [] => []
  | item :: items => item.chars :: itemChars items

/-- The fields of an object, each on one line. -/
def fieldChars : List (String × Value) → List (List Char)
  | [] => []
  | (name, value) :: fields => (quote name ++ ':' :: value.chars) :: fieldChars fields

end

/-- A value on one line, without blanks. -/
def Value.print (v : Value) : String := String.ofList v.chars

/-- The start of a line at a level of nesting. -/
def newLine (level : Nat) : List Char := '\n' :: List.replicate (2 * level) ' '

/-- Parts in brackets, one to a line; brackets without parts stay on their line. -/
def bracket (opening closing : Char) (level : Nat) (parts : List (List Char)) : List Char :=
  if parts.isEmpty then [opening, closing]
  else
    opening :: (newLine (level + 1) ++ joinWith (',' :: newLine (level + 1)) parts ++
      newLine level ++ [closing])

mutual

/-- The characters of a value at a level of nesting, one item or field to a line. -/
def Value.prettyChars (level : Nat) : Value → List Char
  | .array items => bracket '[' ']' level (prettyItems (level + 1) items)
  | .object fields => bracket '\x7b' '\x7d' level (prettyFields (level + 1) fields)
  | .null => Value.null.chars
  | .bool b => (Value.bool b).chars
  | .number n => n.print
  | .string s => quote s

/-- The items of an array, each at a level of nesting. -/
def prettyItems (level : Nat) : List Value → List (List Char)
  | [] => []
  | item :: items => item.prettyChars level :: prettyItems level items

/-- The fields of an object, each at a level of nesting. -/
def prettyFields (level : Nat) : List (String × Value) → List (List Char)
  | [] => []
  | (name, value) :: fields =>
    (quote name ++ ':' :: ' ' :: value.prettyChars level) :: prettyFields level fields

end

/-- A value with one item or field to a line. -/
def Value.printPretty (v : Value) : String := String.ofList (v.prettyChars 0)

end Clearance.Json
