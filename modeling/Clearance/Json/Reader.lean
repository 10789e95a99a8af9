import Clearance.Json.Token

/-!
# Reading JSON

A reader takes the tokens of a text one at a time. Its state holds the arrays and objects that are
open, the innermost first, and what may come next. Where a name occurs twice in an object, the
later value counts. Arrays and objects nest at most `maxNesting` deep.
-/

set_option autoImplicit false

namespace Clearance.Json

/-- The deepest nesting of arrays and objects. -/
def maxNesting : Nat := 127

/-- An array or an object that is not closed yet. -/
inductive Frame where
  /-- An array with the items so far, the latest first. -/
  | array (items : List Value)
  /-- An object with the fields so far and the name of the field that is being read. -/
  | object (fields : List (String × Value)) (name : String)

/-- What may come next. -/
inductive Expectation where
  /-- A value. -/
  | value
  /-- The first item of an array, or its end. -/
  | firstItem
  /-- The first field of an object, or its end. -/
  | firstField
  /-- Another field of an object with these fields. -/
  | field (fields : List (String × Value))
  /-- The colon after a name. -/
  | colon (fields : List (String × Value)) (name : String)
  /-- What follows a value: a comma, the end of its array or object, or the end of the text. -/
  | after (value : Value)

/-- The state of a reader. -/
structure Reader where
  frames : List Frame
  expectation : Expectation

namespace Reader

/-- The reader before the first token. -/
def start : Reader := ⟨[], .value⟩

/-- Begins an array or an object where a value may come, if that does not nest too deep. -/
def enter? (frames : List Frame) (inner : List Frame) (next : Expectation) : Option Reader :=
  if frames.length < maxNesting then some ⟨inner, next⟩ else none

/-- Takes a token where a value may come. -/
def value? (frames : List Frame) : Token → Option Reader
  | .scalar v => some ⟨frames, .after v⟩
  | .string s => some ⟨frames, .after (.string s)⟩
  | .openArray => enter? frames (.array [] :: frames) .firstItem
  | .openObject => enter? frames frames .firstField
  | _ => none

/-- Takes a token after a complete value. -/
def after? (v : Value) : List Frame → Token → Option Reader
  | .array items :: frames, .comma => some ⟨.array (v :: items) :: frames, .value⟩
  | .array items :: frames, .closeArray => some ⟨frames, .after (.array (v :: items).reverse)⟩
  | .object fields name :: frames, .comma => some ⟨frames, .field (put name v fields)⟩
  | .object fields name :: frames, .closeObject =>
    some ⟨frames, .after (.object (put name v fields))⟩
  | _, _ => none

/-- Takes one token. -/
def step? (r : Reader) (token : Token) : Option Reader :=
  match r.expectation, token with
  | .value, token => value? r.frames token
  | .firstItem, .closeArray =>
    match r.frames with
    | .array items :: frames => some ⟨frames, .after (.array items.reverse)⟩
    | _ => none
  | .firstItem, token => value? r.frames token
  | .firstField, .closeObject => some ⟨r.frames, .after (.object [])⟩
  | .firstField, .string name => some ⟨r.frames, .colon [] name⟩
  | .field fields, .string name => some ⟨r.frames, .colon fields name⟩
  | .colon fields name, .colon => some ⟨.object fields name :: r.frames, .value⟩
  | .after v, token => after? v r.frames token
  | _, _ => none

/-- The value that has been read, if it is complete. -/
def result? (r : Reader) : Option Value :=
  match r.frames, r.expectation with
  | [], .after v => some v
  | _, _ => none

end Reader

/-- The value that a text denotes, if it is JSON. -/
def Value.read? (s : String) : Option Value := do
  let tokens ← Token.ofChars? s.toList
  let reader ← tokens.foldlM Reader.step? Reader.start
  reader.result?

end Clearance.Json
