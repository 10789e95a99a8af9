import Clearance.Json.Number
import Clearance.Text.Percent

/-!
# JSON tokens

The punctuation, words, numbers and strings of a JSON text, with the blanks between them dropped.
A text with any other character, with a numeral out of range or with a string that is not closed
has no tokens.
-/

set_option autoImplicit false

namespace Clearance.Json

/-- A token of a JSON text. -/
inductive Token where
  | openArray
  | closeArray
  | openObject
  | closeObject
  | comma
  | colon
  /-- A value that stands by itself: a word or a number. -/
  | scalar (value : Value)
  | string (s : String)

namespace Token

/-- The blanks that may stand between tokens. -/
def isSpace (c : Char) : Bool := c == ' ' || c == '\n' || c == '\t' || c == '\r'

/-- The token that a single character makes. -/
def ofChar? : Char → Option Token
  | '[' => some openArray
  | ']' => some closeArray
  | '\x7b' => some openObject
  | '\x7d' => some closeObject
  | ',' => some comma
  | ':' => some colon
  | _ => none

/-- The value that a word denotes. -/
def ofWord? (word : List Char) : Option Token :=
  if word = ['t', 'r', 'u', 'e'] then some (scalar (.bool true))
  else if word = ['f', 'a', 'l', 's', 'e'] then some (scalar (.bool false))
  else if word = ['n', 'u', 'l', 'l'] then some (scalar .null)
  else none

/-- What an escape of one character stands for. -/
def escaped? : Char → Option Char
  | '"' => some '"'
  | '\\' => some '\\'
  | '/' => some '/'
  | 'b' => some '\x08'
  | 'f' => some '\x0c'
  | 'n' => some '\n'
  | 'r' => some '\r'
  | 't' => some '\t'
  | _ => none

/-- The number that four hexadecimal digits make. -/
def codeUnit? (a b c d : Char) : Option Nat := do
  let values ← [a, b, c, d].mapM Text.hexValue?
  return values.foldl (fun n digit => 16 * n + digit) 0

/-- The first half of a pair of code units. -/
def isLeading (unit : Nat) : Bool := 0xD800 ≤ unit && unit < 0xDC00

/-- The second half of a pair of code units. -/
def isTrailing (unit : Nat) : Bool := 0xDC00 ≤ unit && unit < 0xE000

/-- The character that a pair of code units stands for. -/
def ofPair (leading trailing : Nat) : Char :=
  Char.ofNat (0x10000 + (leading - 0xD800) * 0x400 + (trailing - 0xDC00))

/-- The characters of a string up to the quote that closes it, and what follows the quote. Half a
pair of code units is refused, and so is a control character. -/
def stringBody? : List Char → Option (List Char × List Char)
  | [] => none
  | '"' :: rest => some ([], rest)
  | '\\' :: 'u' :: a :: b :: c :: d :: rest => do
    let unit ← codeUnit? a b c d
    if isTrailing unit then none
    else if isLeading unit then
      match rest with
      | '\\' :: 'u' :: e :: f :: g :: h :: rest =>
        let second ← codeUnit? e f g h
        if isTrailing second then
          (stringBody? rest).map fun parts => (ofPair unit second :: parts.1, parts.2)
        else none
      | _ => none
    else (stringBody? rest).map fun parts => (Char.ofNat unit :: parts.1, parts.2)
  | '\\' :: c :: rest => do
    let char ← escaped? c
    (stringBody? rest).map fun parts => (char :: parts.1, parts.2)
  | c :: rest =>
    if c.toNat < 0x20 ∨ c = '\\' then none
    else (stringBody? rest).map fun parts => (c :: parts.1, parts.2)

/-- The token at the start of `c :: cs`, and what follows it. -/
def next? (c : Char) (cs : List Char) : Option (Token × List Char) :=
  match ofChar? c with
  | some token => some (token, cs)
  | none =>
    if c = '"' then (stringBody? cs).map fun parts => (string (String.ofList parts.1), parts.2)
    else if c = '-' ∨ c.isDigit then do
      let (numeral, rest) ← Numeral.read? (c == '-') (if c = '-' then cs else c :: cs)
      let number ← numeral.number?
      return (scalar (.number number), rest)
    else do
      let token ← ofWord? ((c :: cs).takeWhile Char.isAlpha)
      return (token, cs.dropWhile Char.isAlpha)

/-- The tokens of a text. A token takes at least one character, so as many rounds as there are
characters suffice. -/
def tokens? : (rounds : Nat) → List Char → Option (List Token)
  | _, [] => some []
  | 0, _ => none
  | rounds + 1, c :: cs =>
    if isSpace c then tokens? rounds cs
    else do
      let (token, rest) ← next? c cs
      (tokens? rounds rest).map (token :: ·)

/-- The tokens of a text. -/
def ofChars? (cs : List Char) : Option (List Token) := tokens? cs.length cs

end Token

end Clearance.Json
