import Clearance.Component.Coordinates
import Clearance.Text.CharClass

/-!
# Maven notation

`group:artifact[:type[:classifier]]:version[:scope]`, as Maven prints dependency lists.

The colons cut the text into fields. The version is the field at index 2, 3 or 4; it starts
with a digit, or with `v` and a digit, and at most one field follows it. Several indices may
qualify, and then the rightmost one is the version: a type and a classifier are read wherever
they can be. No field holds a space, except the one after the version.
-/

set_option autoImplicit false

namespace Clearance.Maven

/-- Groups with this prefix are Eclipse p2 bundles that are published again through Maven. -/
def bundlePrefix : String := "p2."

/-- A field that holds no space. -/
def isPlain (field : List Char) : Bool := field.all (· != ' ')

/-- A field that holds a character and no space. -/
def isFilled (field : List Char) : Bool := !field.isEmpty && isPlain field

/-- A field that can be the version: `v` or nothing, a decimal digit, and then no space. -/
def isVersion (field : List Char) : Bool :=
  isPlain field &&
    match field with
    | 'v' :: c :: _ => Text.isDigit c
    | c :: _ => Text.isDigit c
    | [] => false

/-- The field at `index` can be the version of the dependency that `fields` describes. -/
def versionAt (fields : List (List Char)) (index : Nat) : Bool :=
  (index + 1 == fields.length || index + 2 == fields.length) &&
    (fields[index]?.any isVersion && fields[0]?.any isFilled && fields[1]?.any isFilled) &&
    ((index < 3 || fields[2]?.any isPlain) && (index < 4 || fields[3]?.any isFilled))

/-- The rightmost index at which a version can stand. -/
def versionIndex? (fields : List (List Char)) : Option Nat :=
  [4, 3, 2].find? (versionAt fields)

/-- The coordinates of a Maven dependency; type, classifier and scope play no part in them. -/
def read (s : String) : Option Coordinates :=
  let fields := (Text.trimChars s.toList).splitOn ':'
  match versionIndex? fields with
  | none => none
  | some index =>
    let group := String.ofList (fields.getD 0 [])
    let (kind, source) :=
      if bundlePrefix.toList.isPrefixOf group.toList then ("p2", "orbit")
      else ("maven", "mavencentral")
    some (.of kind source (some group) (String.ofList (fields.getD 1 []))
      (String.ofList (fields.getD index [])))

end Clearance.Maven
