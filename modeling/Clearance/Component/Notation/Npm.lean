import Clearance.Component.Coordinates
import Clearance.Text.Basic

/-!
# npm notation

`name@version` or `@scope/name@version`. White space stands nowhere; the scope and the name
hold neither `/` nor a further `@`, and the version holds no `@`.
-/

set_option autoImplicit false

namespace Clearance.Npm

/-- Characters of a scope and of a name. -/
def isNameChar (c : Char) : Bool := !Text.isBlank c && c != '/' && c != '@'

/-- Characters of a version. -/
def isVersionChar (c : Char) : Bool := !Text.isBlank c && c != '@'

/-- The coordinates of `name@version` within a scope. -/
def readNamed (scope : Option String) (cs : List Char) : Option Coordinates := do
  let (name, version) ← Text.cutFirst '@' cs
  if !name.isEmpty && name.all isNameChar && !version.isEmpty && version.all isVersionChar then
    some (.of "npm" "npmjs" scope (String.ofList name) (String.ofList version))
  else none

/-- The coordinates of an npm package; text that starts with `@` has a scope. -/
def read (s : String) : Option Coordinates :=
  match Text.trimChars s.toList with
  | '@' :: cs => do
    let (scope, rest) ← Text.cutFirst '/' cs
    if !scope.isEmpty && scope.all isNameChar then
      readNamed (some (String.ofList ('@' :: scope))) rest
    else none
  | cs => readNamed none cs

end Clearance.Npm
