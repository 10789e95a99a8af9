import Clearance.Text.Basic

/-!
# Coordinates

The five coordinates that name one release of one third-party component: the ecosystem, where
it is published, an optional scope (a Maven group, an npm scope), its name and its version.

`canonical` writes them as `kind/source/scope/name/version`, with `-` for an absent scope.
Coordinates are *well formed* when every part is a segment: not empty, without a slash and
without white space. Only well-formed coordinates are worth asking a provider about.
-/

set_option autoImplicit false

namespace Clearance

/-- What names one release of one component. -/
structure Coordinates where
  /-- The ecosystem: `maven`, `npm`, `pypi`, `p2`, and so on. -/
  kind : String
  /-- Where the component is published: `mavencentral`, `npmjs`, and so on. -/
  source : String
  /-- The group or scope within the source, if there is one. -/
  scope : Option String
  name : String
  version : String
  deriving DecidableEq, Repr

namespace Coordinates

/-- The stand-in for an absent scope in the canonical form. -/
def absentScope : String := "-"

/-- Coordinates in which the scope `-` means that there is none. -/
def of (kind source : String) (scope : Option String) (name version : String) : Coordinates where
  kind := kind
  source := source
  scope := scope.filter (· != absentScope)
  name := name
  version := version

/-- The scope as it is written in the canonical form. -/
def scopeText (c : Coordinates) : String := c.scope.getD absentScope

/-- The canonical form, `kind/source/scope/name/version`. -/
def canonical (c : Coordinates) : String :=
  c.kind ++ "/" ++ c.source ++ "/" ++ c.scopeText ++ "/" ++ c.name ++ "/" ++ c.version

/-- A part that can stand between slashes: not empty, without slash and without white space. -/
def isSegment (part : String) : Bool :=
  !part.toList.isEmpty && part.toList.all fun c => c != '/' && !Text.isBlank c

/-- Every part that is present is a segment. -/
def isWellFormed (c : Coordinates) : Bool :=
  c.scope.all isSegment && isSegment c.kind && isSegment c.source && isSegment c.name &&
    isSegment c.version

end Coordinates

end Clearance
