/-!
# TOML values and tables

The values that can stand to the right of an equals sign, and the tables that a document builds.
While a document is read its tables remember how they came about, because that decides how they
may be extended:

* a table *opened* by a header is complete with that header's lines;
* a table *implied* by a longer header may still be opened by a header of its own;
* a table made by *dotted* keys may only grow by more dotted keys of the same section.
-/

set_option autoImplicit false

namespace Clearance.Toml

/-- A value. Numbers with a fraction and points in time are told apart from the rest, but nothing
reads what they denote. -/
inductive Value where
  | string (s : String)
  | integer (n : Int)
  | fractional
  | moment
  | boolean (b : Bool)
  | array (items : List Value)
  | table (fields : List (String × Value))
  deriving Repr

/-- How a table came about. -/
inductive Origin where
  | opened
  | implied
  | dotted
  deriving DecidableEq, Repr

/-- What stands under a name while a document is read. -/
inductive Node where
  /-- A value, which is complete. -/
  | value (v : Value)
  | table (origin : Origin) (fields : List (String × Node))
  /-- An array of tables, each opened by a header, the latest first. -/
  | rows (tables : List (List (String × Node)))

mutual

/-- The value that a node has become. -/
def Node.toValue : Node → Value
  | .value v => v
  | .table _ fields => .table (fieldValues fields)
  | .rows tables => .array (rowValues tables).reverse

/-- The fields of a table as values. -/
def fieldValues : List (String × Node) → List (String × Value)
  | [] => []
  | (name, node) :: fields => (name, node.toValue) :: fieldValues fields

/-- The tables of an array as values. -/
def rowValues : List (List (String × Node)) → List Value
  | [] => []
  | fields :: tables => .table (fieldValues fields) :: rowValues tables

end

/-- The fields of a table that is being built. -/
abbrev Fields := List (String × Node)

namespace Fields

/-- The fields with `node` under a name that is there already. -/
def set (fields : Fields) (name : String) (node : Node) : Fields :=
  fields.map fun field => if field.1 = name then (name, node) else field

/-- The fields with `node` under a name, new or not. -/
def put (fields : Fields) (name : String) (node : Node) : Fields :=
  if (fields.lookup name).isSome then fields.set name node else fields ++ [(name, node)]

/-- The fields with `change` applied to the table at the end of a path. Tables that are missing on
the way come about with the origin `made`. The way leads into the latest table of an array of
tables. It leads through no value, and dotted keys do not lead into a table that a header has
opened. -/
def descend (made : Origin) (change : Origin → Fields → Option Fields) :
    (path : List String) → Origin → Fields → Option Fields
  | [], origin, fields => change origin fields
  | name :: path, _, fields =>
    match fields.lookup name with
    | none => do
      let inner ← descend made change path made []
      return fields ++ [(name, .table made inner)]
    | some (.value _) => none
    | some (.table origin inner) =>
      if made = .dotted ∧ origin = .opened then none
      else do
        let inner ← descend made change path origin inner
        return fields.set name (.table origin inner)
    | some (.rows []) => none
    | some (.rows (latest :: earlier)) => do
      let latest ← descend made change path .opened latest
      return fields.set name (.rows (latest :: earlier))

/-- The fields with a value under a dotted key, given as the path before its last part and that
part. A name is given a value once, and a path ends in a table of dotted keys. -/
def assign (fields : Fields) (path : List String) (name : String) (v : Value) : Option Fields :=
  descend .dotted (fun origin fields =>
    if (origin = .dotted ↔ path = []) ∨ (fields.lookup name).isSome then none
    else some (fields ++ [(name, .value v)])) path .opened fields

end Fields

/-- A key, cut into its parts. -/
structure Key where
  /-- The parts before the last one. -/
  path : List String
  name : String
  deriving Repr

/-- A key with the value that it is given. -/
structure Assignment where
  key : Key
  value : Value

/-- The fields after several assignments. -/
def Fields.assignAll (fields : Fields) (assignments : List Assignment) : Option Fields :=
  assignments.foldlM (fun fields a => fields.assign a.key.path a.key.name a.value) fields

/-- A header with the assignments that follow it. -/
structure Section where
  /-- The header opens another table of an array of tables. -/
  isRow : Bool
  key : Key
  assignments : List Assignment

/-- The fields of the whole document after one more section. A table is opened once, unless it was
only implied before. -/
def Fields.addSection (root : Fields) (s : Section) : Option Fields :=
  descend .implied (fun _ parent =>
    match s.isRow, parent.lookup s.key.name with
    | true, none => do
      let fields ← Fields.assignAll [] s.assignments
      return parent.put s.key.name (.rows [fields])
    | true, some (.rows tables) => do
      let fields ← Fields.assignAll [] s.assignments
      return parent.put s.key.name (.rows (fields :: tables))
    | false, none => do
      let fields ← Fields.assignAll [] s.assignments
      return parent.put s.key.name (.table .opened fields)
    | false, some (.table .implied implied) => do
      let fields ← Fields.assignAll implied s.assignments
      return parent.put s.key.name (.table .opened fields)
    | _, _ => none) s.key.path .opened root

end Clearance.Toml
