import Clearance.Text.Percent

/-!
# TOML text

The pieces of a TOML document below the level of values: line ends, comments and the four kinds of
strings. A line ends with a line feed, with or without a carriage return before it. Control
characters other than the tab stand nowhere, not even in comments.

The readers here take the characters of a document and return what they have read together with
the characters that follow it.
-/

set_option autoImplicit false

namespace Clearance.Toml

/-- Reads something at the start of the characters. -/
abbrev Phrase (α : Type) := List Char → Option (α × List Char)

/-- The blanks within a line. -/
def isSpace (c : Char) : Bool := c == ' ' || c == '\t'

/-- The characters without blanks at their start. -/
def skipSpaces (cs : List Char) : List Char := cs.dropWhile isSpace

/-- Characters that are not control characters, and the tab. -/
def isPlain (c : Char) : Bool := c == '\t' || (0x20 ≤ c.toNat && c.toNat != 0x7F)

/-- What follows a line end. -/
def newline? : List Char → Option (List Char)
  | '\n' :: cs => some cs
  | '\r' :: '\n' :: cs => some cs
  | _ => none

/-- What follows the rest of a line that holds nothing but blanks and a comment. -/
def lineEnd? (cs : List Char) : Option (List Char) :=
  let cs := skipSpaces cs
  let cs := if cs.head? = some '#' then cs.dropWhile isPlain else cs
  if cs.isEmpty then some [] else newline? cs

/-- The characters without blanks, line ends and comments at their start. The flag says that a
comment has begun. -/
def skipLines : (inComment : Bool) → List Char → List Char
  | _, [] => []
  | _, '\n' :: cs => skipLines false cs
  | _, '\r' :: '\n' :: cs => skipLines false cs
  | true, c :: cs => if isPlain c then skipLines true cs else c :: cs
  | false, c :: cs =>
    if isSpace c then skipLines false cs
    else if c = '#' then skipLines true cs
    else c :: cs

/-- The character that hexadecimal digits stand for. -/
def ofHex? (digits : List Char) : Option Char := do
  let values ← digits.mapM Text.hexValue?
  let code := values.foldl (fun n digit => 16 * n + digit) 0
  if code.isValidChar then some (Char.ofNat code) else none

/-- What an escape of one character stands for. -/
def escaped? : Char → Option Char
  | 'b' => some '\x08'
  | 't' => some '\t'
  | 'n' => some '\n'
  | 'f' => some '\x0c'
  | 'r' => some '\r'
  | '"' => some '"'
  | '\\' => some '\\'
  | _ => none

/-- Puts a character in front of what was read. -/
def prepend (c : Char) (parts : List Char × List Char) : List Char × List Char :=
  (c :: parts.1, parts.2)

/-- A basic string on one line, behind its opening quote. -/
def basic? : Phrase (List Char)
  | [] => none
  | '"' :: rest => some ([], rest)
  | '\\' :: 'u' :: a :: b :: c :: d :: rest => do
    let char ← ofHex? [a, b, c, d]
    (basic? rest).map (prepend char)
  | '\\' :: 'U' :: a :: b :: c :: d :: e :: f :: g :: h :: rest => do
    let char ← ofHex? [a, b, c, d, e, f, g, h]
    (basic? rest).map (prepend char)
  | '\\' :: c :: rest => do
    let char ← escaped? c
    (basic? rest).map (prepend char)
  | c :: rest => if isPlain c && c != '\\' then (basic? rest).map (prepend c) else none

/-- A literal string on one line, behind its opening quote. -/
def literal? : Phrase (List Char)
  | [] => none
  | c :: rest =>
    if c = '\'' then some ([], rest)
    else if isPlain c then (literal? rest).map (prepend c)
    else none

/-- The end of a string of several lines behind three quotes: up to two more belong to the
string. -/
def afterQuotes (quote : Char) (rest : List Char) : List Char × List Char :=
  let more := (rest.take 2).takeWhile (· == quote)
  (more, rest.drop more.length)

/-- A basic string of several lines, behind its opening quotes and the line end after them. The
flag says that a backslash at the end of a line hides the blanks and line ends that follow. -/
def basicLines? : (hidden : Bool) → Phrase (List Char)
  | _, [] => none
  | true, '\n' :: rest => basicLines? true rest
  | true, '\r' :: '\n' :: rest => basicLines? true rest
  | true, ' ' :: rest => basicLines? true rest
  | true, '\t' :: rest => basicLines? true rest
  | _, '"' :: '"' :: '"' :: rest => some (afterQuotes '"' rest)
  | _, '\n' :: rest => (basicLines? false rest).map (prepend '\n')
  | _, '\r' :: '\n' :: rest => (basicLines? false rest).map (prepend '\n')
  | _, '\\' :: 'u' :: a :: b :: c :: d :: rest => do
    let char ← ofHex? [a, b, c, d]
    (basicLines? false rest).map (prepend char)
  | _, '\\' :: 'U' :: a :: b :: c :: d :: e :: f :: g :: h :: rest => do
    let char ← ofHex? [a, b, c, d, e, f, g, h]
    (basicLines? false rest).map (prepend char)
  | _, '\\' :: c :: rest =>
    if (newline? (skipSpaces (c :: rest))).isSome then basicLines? true (c :: rest)
    else do
      let char ← escaped? c
      (basicLines? false rest).map (prepend char)
  | _, c :: rest =>
    if isPlain c && c != '\\' then (basicLines? false rest).map (prepend c) else none

/-- A literal string of several lines, behind its opening quotes and the line end after them. -/
def literalLines? : Phrase (List Char)
  | [] => none
  | '\'' :: '\'' :: '\'' :: rest => some (afterQuotes '\'' rest)
  | '\n' :: rest => (literalLines? rest).map (prepend '\n')
  | '\r' :: '\n' :: rest => (literalLines? rest).map (prepend '\n')
  | c :: rest => if isPlain c then (literalLines? rest).map (prepend c) else none

/-- The characters without a line end at their start. -/
def skipNewline (cs : List Char) : List Char := (newline? cs).getD cs

/-- A string of any kind. -/
def string? : Phrase (List Char)
  | '"' :: '"' :: '"' :: rest => basicLines? false (skipNewline rest)
  | '"' :: rest => basic? rest
  | '\'' :: '\'' :: '\'' :: rest => literalLines? (skipNewline rest)
  | '\'' :: rest => literal? rest
  | _ => none

end Clearance.Toml
