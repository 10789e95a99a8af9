import Clearance.Component.Coordinates
import Clearance.Text.CharClass

/-!
# Five-part notation

`kind/source/scope/name/version`, the form that the providers write ids in and that
`Coordinates.canonical` prints. Each part has its own characters:

* the kind holds word characters and `-`;
* the source may also hold `.`;
* the scope and the name may further hold `@` and the escape `%2F`, and the name `+`;
* the version holds anything but white space.

No part may be empty and no part holds a slash, so the slashes of the text decide the parts.
-/

set_option autoImplicit false

namespace Clearance.FivePart

/-- Characters of the kind. -/
def isKindChar (c : Char) : Bool := Text.isWord c || c == '-'

/-- Characters of the source. -/
def isSourceChar (c : Char) : Bool := isKindChar c || c == '.'

/-- Characters of the scope, escapes apart. -/
def isScopeChar (c : Char) : Bool := isSourceChar c || c == '@'

/-- Characters of the name, escapes apart. -/
def isNameChar (c : Char) : Bool := isScopeChar c || c == '+'

/-- Every character is allowed, or belongs to an escaped slash `%2F` in either case. -/
def allOrEscaped (allowed : Char → Bool) : List Char → Bool
  | [] => true
  | '%' :: '2' :: c :: cs =>
    if c = 'F' ∨ c = 'f' then allOrEscaped allowed cs
    else allowed '%' && allowed '2' && allowed c && allOrEscaped allowed cs
  | c :: cs => allowed c && allOrEscaped allowed cs

/-- The five parts of the trimmed text, where each holds only its own characters. -/
def read (s : String) : Option Coordinates :=
  match (Text.trimChars s.toList).splitOn '/' with
  | [kind, source, scope, name, version] =>
    if !kind.isEmpty && kind.all isKindChar &&
        (!source.isEmpty && source.all isSourceChar) &&
        (!scope.isEmpty && allOrEscaped isScopeChar scope) &&
        (!name.isEmpty && allOrEscaped isNameChar name) &&
        (!version.isEmpty && version.all fun c => !Text.isBlank c) then
      some (.of (String.ofList kind) (String.ofList source) (some (String.ofList scope))
        (String.ofList name) (String.ofList version))
    else none
  | _ => none

end Clearance.FivePart
