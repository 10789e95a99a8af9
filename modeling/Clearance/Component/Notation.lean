import Clearance.Component.Id
import Clearance.Component.Notation.FivePart
import Clearance.Component.Notation.Maven
import Clearance.Component.Notation.Npm
import Clearance.Component.Notation.PackageUrl
import Clearance.Text.Percent

/-!
# Notations and dependency lists

The four notations in which a dependency list may name a component. `ComponentId.read` tries
them in a fixed order, so that text which several of them recognise has one meaning, and takes
text that none recognises for an unrecognised id.

A dependency list is a sequence of lines, one entry to a line. Blank lines are skipped, white
space around an entry is dropped (a carriage return before the end of a line with it), and of
several entries for one component only the first is kept. The list is read from bytes: a single line
that is not UTF-8 makes it unreadable.
-/

set_option autoImplicit false

namespace Clearance

/-- A way to write the coordinates of a component. -/
inductive Notation where
  | fivePart
  | packageUrl
  | maven
  | npm
  deriving DecidableEq, Repr

namespace Notation

/-- The notations in the order in which they are tried. -/
def all : List Notation := [.fivePart, .packageUrl, .maven, .npm]

/-- The coordinates that a text denotes in a notation, if it is written in it. -/
def read : Notation → String → Option Coordinates
  | .fivePart => FivePart.read
  | .packageUrl => PackageUrl.read
  | .maven => Maven.read
  | .npm => Npm.read

end Notation

namespace ComponentId

/-- The id that one entry of a dependency list denotes. -/
def read (s : String) : ComponentId :=
  match Notation.all.findSome? (·.read s) with
  | some coordinates => .located coordinates
  | none => .ofUnrecognised s

/-- The id that a provider's text denotes; providers write the five-part notation only. -/
def ofCanonical? (s : String) : Option ComponentId := (FivePart.read s).map .located

end ComponentId

namespace Listing

/-- The byte that ends a line. -/
def lineFeed : UInt8 := 10

/-- The lines of a dependency list, or `none` if one of them is not UTF-8. -/
def lines? (bytes : List UInt8) : Option (List String) :=
  (bytes.splitOn lineFeed).mapM Text.ofUtf8?

/-- The ids that lines denote, each component once, at its first line. -/
def ofLines (lines : List String) : List ComponentId :=
  ComponentId.firstOccurrences <|
    ((lines.map Text.trim).filter (!·.isEmpty)).map ComponentId.read

/-- The ids of a dependency list, if it is readable. -/
def read? (bytes : List UInt8) : Option (List ComponentId) := (lines? bytes).map ofLines

end Listing

end Clearance
