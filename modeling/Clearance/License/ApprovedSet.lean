import Clearance.License.Parser
import Clearance.Observation

/-!
# Approved licenses

The licenses that a deployment accepts, as a set of names. A license expression is approved
when the set holds enough of its names, and restricted otherwise; names are compared exactly,
so that a near miss is never taken for an approved license.

Entries are trimmed when a set is made, and blank ones are left out. The order and the number
of repetitions of the entries do not matter.
-/

set_option autoImplicit false

namespace Clearance.License

/-- The licenses that are accepted as they stand. -/
structure ApprovedSet where
  /-- The trimmed names, each once, in the order in which they were first given. -/
  names : List String
  deriving Repr

namespace ApprovedSet

/-- The set of the trimmed entries that are not blank. -/
def ofList (entries : List String) : ApprovedSet where
  names := ((entries.map Text.trim).filter (!·.isEmpty)).eraseDups

/-- The number of licenses in the set. -/
def size (approved : ApprovedSet) : Nat := approved.names.length

/-- `name` is one of the licenses, spelled exactly so. -/
def contains (approved : ApprovedSet) (name : String) : Bool := approved.names.contains name

/-- Both sets hold the same licenses. -/
def sameAs (a b : ApprovedSet) : Bool := a.names.all b.contains && b.names.all a.contains

/-- The verdict on a parsed expression. -/
def judge (approved : ApprovedSet) (e : Expr) : Verdict :=
  if e.isApproved approved.contains then .approved else .restricted

/-- The verdict on the text of an expression. Blank text is restricted. -/
def judgeText (approved : ApprovedSet) (s : String) : Verdict :=
  if Text.isBlankText s then .restricted else approved.judge (parse s)

/-- The licenses that are accepted where no other set is configured: common permissive ones and
those with a weak copyleft. -/
def standard : ApprovedSet :=
  ofList
    ["0BSD", "Apache-1.1", "Apache-2.0", "Artistic-2.0", "BSD-2-Clause", "BSD-3-Clause",
      "BlueOak-1.0.0", "BSL-1.0", "CC-BY-3.0", "CC-BY-4.0", "CC0-1.0", "CDDL-1.0", "CDDL-1.1",
      "EPL-1.0", "EPL-2.0", "EDL-1.0", "ISC", "LGPL-2.1-only", "LGPL-2.1-or-later",
      "LGPL-3.0-only", "LGPL-3.0-or-later", "MIT", "MIT-0", "MPL-2.0", "PSF-2.0", "Python-2.0",
      "Unicode-DFS-2016", "Unlicense", "W3C", "Zlib"]

end ApprovedSet

end Clearance.License
