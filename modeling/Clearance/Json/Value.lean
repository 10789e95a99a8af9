import Clearance.Decimal.Binary64

/-!
# JSON values

JSON documents as values. An object is a list of fields; `put` keeps it ordered by name with each
name once, so that reading the same fields in another order gives the same value.

`at?` follows a path of names, which is how the decoders reach into the answers of providers: a
step into a value that is no object, like one that finds nothing, has no result.
-/

set_option autoImplicit false

namespace Clearance.Json

/-- A number: an integer that fits in 64 bits, signed or unsigned, or a binary64 number. -/
inductive Number where
  | integer (n : Int)
  | real (negative : Bool) (magnitude : Binary64)
  deriving DecidableEq, Repr

/-- A JSON value. -/
inductive Value where
  | null
  | bool (b : Bool)
  | number (n : Number)
  | string (s : String)
  | array (items : List Value)
  | object (fields : List (String × Value))
  deriving BEq, Repr

/-- Fields with `value` under `name`, in the order of the names, in the place of any value that
stood there. -/
def put (name : String) (value : Value) : List (String × Value) → List (String × Value)
  | [] => [(name, value)]
  | field :: fields =>
    if name < field.1 then (name, value) :: field :: fields
    else if field.1 < name then field :: put name value fields
    else (name, value) :: fields

/-- The least integer that is kept as one. -/
def leastInteger : Int := -Int.pow 2 63

/-- The greatest integer that is kept as one. -/
def greatestInteger : Int := Int.pow 2 64 - 1

namespace Value

/-- The fields of an object. -/
def fields? : Value → Option (List (String × Value))
  | object fields => some fields
  | _ => none

/-- The value under a name of an object. -/
def field? (v : Value) (name : String) : Option Value := v.fields?.bind (·.lookup name)

/-- The text of a string. -/
def string? : Value → Option String
  | string s => some s
  | _ => none

/-- The items of an array. -/
def items? : Value → Option (List Value)
  | array items => some items
  | _ => none

/-- The natural number that a number is, if it is one and was written as an integer. -/
def natural? : Value → Option Nat
  | number (.integer n) => if 0 ≤ n then some n.toNat else none
  | _ => none

/-- What a path of names leads to. -/
def at? (v : Value) (path : List String) : Option Value := path.foldlM field? v

end Value

end Clearance.Json
