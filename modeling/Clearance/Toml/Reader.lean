import Clearance.Toml.Number
import Clearance.Toml.Value

/-!
# Reading TOML

A document is a sequence of lines: assignments and headers, blank lines and comments. A value ends
with its line, unless it is an array or a string of several lines. Arrays may be spread over lines
and may hold comments; inline tables stay on their line.

Arrays and inline tables nest at most `maxNesting` deep, and a key has fewer than `maxParts` parts.
-/

set_option autoImplicit false

namespace Clearance.Toml

/-- The deepest nesting of arrays and inline tables. -/
def maxNesting : Nat := 79

/-- The number of parts that is too many for a key. -/
def maxParts : Nat := 80

/-- Characters of a key without quotes. -/
def isBareKeyChar (c : Char) : Bool := c.isAlphanum || c == '-' || c == '_'

/-- One part of a key: without quotes, or a string on one line. -/
def keyPart? : Phrase String
  | [] => none
  | c :: cs =>
    if c = '"' then (basic? cs).map fun parts => (String.ofList parts.1, parts.2)
    else if c = '\'' then (literal? cs).map fun parts => (String.ofList parts.1, parts.2)
    else if isBareKeyChar c then
      some (String.ofList ((c :: cs).takeWhile isBareKeyChar), (c :: cs).dropWhile isBareKeyChar)
    else none

/-- The parts of a key with dots between them; up to `rounds` of them are read. -/
def keyParts? : (rounds : Nat) → Phrase (List String)
  | 0, _ => none
  | rounds + 1, cs => do
    let (part, afterPart) ← keyPart? (skipSpaces cs)
    match skipSpaces afterPart with
    | '.' :: rest => do
      let (parts, rest) ← keyParts? rounds rest
      return (part :: parts, rest)
    | rest => return ([part], rest)

/-- A key, with the blanks around it. -/
def key? : Phrase Key := fun cs => do
  let (parts, rest) ← keyParts? (maxParts - 1) cs
  let name ← parts.getLast?
  return (⟨parts.dropLast, name⟩, rest)

/-- The items of an array behind its opening bracket. Every round uses up a character. -/
def items? (value : Phrase Value) : (rounds : Nat) → Phrase (List Value)
  | 0, _ => none
  | rounds + 1, cs =>
    match skipLines false cs with
    | ']' :: rest => some ([], rest)
    | cs => do
      let (v, afterValue) ← value cs
      match skipLines false afterValue with
      | ',' :: rest => (items? value rounds rest).map fun parts => (v :: parts.1, parts.2)
      | ']' :: rest => some ([v], rest)
      | _ => none

/-- An assignment up to what follows its value. -/
def assignment? (value : Phrase Value) : Phrase Assignment := fun cs => do
  let (key, afterKey) ← key? cs
  let (v, rest) ← value (skipSpaces (← expect? '=' afterKey))
  return (⟨key, v⟩, rest)

/-- The assignments of an inline table behind its opening brace, where there is at least one. -/
def inlineFields? (value : Phrase Value) : (rounds : Nat) → Phrase (List Assignment)
  | 0, _ => none
  | rounds + 1, cs => do
    let (first, afterValue) ← assignment? value cs
    match skipSpaces afterValue with
    | ',' :: rest => (inlineFields? value rounds rest).map fun parts => (first :: parts.1, parts.2)
    | '\x7d' :: rest => some ([first], rest)
    | _ => none

/-- An inline table behind its opening brace. -/
def inlineTable? (value : Phrase Value) : Phrase Value := fun cs =>
  match skipSpaces cs with
  | '\x7d' :: rest => some (.table [], rest)
  | _ => do
    let (assignments, rest) ← inlineFields? value cs.length cs
    let fields ← Fields.assignAll [] assignments
    return (.table (fieldValues fields), rest)

/-- A value that is neither an array nor an inline table. -/
def scalar? : Phrase Value
  | 't' :: 'r' :: 'u' :: 'e' :: rest => some (.boolean true, rest)
  | 'f' :: 'a' :: 'l' :: 's' :: 'e' :: rest => some (.boolean false, rest)
  | cs =>
    match string? cs with
    | some (chars, rest) => some (.string (String.ofList chars), rest)
    | none =>
      match moment? cs with
      | some rest => some (.moment, rest)
      | none =>
        match fractional? cs with
        | some ((), rest) => some (.fractional, rest)
        | none => (integer? cs).map fun parts => (.integer parts.1, parts.2)

/-- A value in which arrays and inline tables nest at most `depth` deep. -/
def value? : (depth : Nat) → Phrase Value
  | 0, '[' :: _ => none
  | 0, '\x7b' :: _ => none
  | depth + 1, '[' :: cs =>
    (items? (value? depth) cs.length cs).map fun parts => (.array parts.1, parts.2)
  | depth + 1, '\x7b' :: cs => inlineTable? (value? depth) cs
  | _, cs => scalar? cs

/-- A line that says something. -/
inductive Line where
  | assignment (a : Assignment)
  | header (isRow : Bool) (key : Key)

/-- A header up to what follows its closing brackets. -/
def header? : Phrase Line
  | '[' :: '[' :: cs => do
    let (key, afterKey) ← key? cs
    let rest ← expect? ']' (← expect? ']' afterKey)
    return (.header true key, rest)
  | '[' :: cs => do
    let (key, afterKey) ← key? cs
    return (.header false key, ← expect? ']' afterKey)
  | _ => none

/-- The lines of a document that say something. Every round uses up a character. -/
def lines? : (rounds : Nat) → List Char → Option (List Line)
  | 0, cs => if cs.isEmpty then some [] else none
  | rounds + 1, cs =>
    match skipSpaces cs with
    | [] => some []
    | '[' :: cs => do
      let (line, rest) ← header? ('[' :: cs)
      (lines? rounds (← lineEnd? rest)).map (line :: ·)
    | cs =>
      match lineEnd? cs with
      | some rest => lines? rounds rest
      | none => do
        let (a, rest) ← assignment? (value? maxNesting) cs
        (lines? rounds (← lineEnd? rest)).map (.assignment a :: ·)

/-- The assignments before the first header, and the sections behind it. -/
def sections : List Line → List Assignment × List Section
  | [] => ([], [])
  | .assignment a :: lines =>
    let (assignments, rest) := sections lines
    (a :: assignments, rest)
  | .header isRow key :: lines =>
    let (assignments, rest) := sections lines
    ([], ⟨isRow, key, assignments⟩ :: rest)

/-- The characters of a document: a byte order mark at its start is no part of it. -/
def characters (document : String) : List Char :=
  match document.toList with
  | '\uFEFF' :: rest => rest
  | cs => cs

/-- The fields of the root table of a document, if it is TOML. -/
def read? (document : String) : Option (List (String × Value)) := do
  let cs := characters document
  let (top, rest) := sections (← lines? cs.length cs)
  let root ← Fields.assignAll [] top
  let root ← rest.foldlM Fields.addSection root
  return fieldValues root

end Clearance.Toml
