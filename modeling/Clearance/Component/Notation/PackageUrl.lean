import Clearance.Component.Coordinates
import Clearance.Text.Basic
import Clearance.Text.Percent

/-!
# Package URLs

`pkg:type/scope/name@version?qualifiers#subpath`. The scheme is read in any case and may be
followed by slashes; scope, name and version are percent-encoded. Qualifiers and subpath are
accepted and ignored.

The version is required here, although the notation allows its absence, and a scope of several
segments (a Go module path, for instance) is refused, because it has no canonical form.
-/

set_option autoImplicit false

namespace Clearance.PackageUrl

/-- The scheme, in lower case. -/
def scheme : String := "pkg"

/-- The ecosystem and the place of publication for a package type in lower case. A type without
a known place is an ecosystem of its own, published at `-`. -/
def origin (kind : String) : String × String :=
  match kind with
  | "maven" => ("maven", "mavencentral")
  | "npm" => ("npm", "npmjs")
  | "github" => ("git", "github")
  | "pypi" => ("pypi", "pypi")
  | "nuget" => ("nuget", "nuget")
  | other => (other, "-")

/-- What follows the scheme, without qualifiers and subpath, if the text has the scheme. -/
def body? (cs : List Char) : Option (List Char) := do
  let (head, rest) ← Text.cutFirst ':' cs
  if head.map Char.toLower = scheme.toList then
    some (Text.upTo '?' (Text.upTo '#' (rest.dropWhile (· == '/'))))
  else none

/-- The scope and the name, from the decoded segments that follow the type. -/
def scopeAndName? : List String → Option (Option String × String)
  | [name] => some (none, name)
  | [scope, name] => some (some scope, name)
  | _ => none

/-- The coordinates of a package URL. -/
def read (s : String) : Option Coordinates := do
  let body ← body? (Text.trimChars s.toList)
  let (path, versionPart) ← Text.cutLast '@' body
  let version ← Text.percentDecode? versionPart
  let segments := (Text.dropTrailing '/' path).splitOn '/'
  let kindPart ← segments.head?
  let decoded ← segments.tail.mapM Text.percentDecode?
  let (scope, name) ← scopeAndName? decoded
  if kindPart.isEmpty || name.isEmpty || version.isEmpty then none
  else
    let (kind, source) := origin (String.ofList (kindPart.map Char.toLower))
    some (.of kind source scope name version)

end Clearance.PackageUrl
