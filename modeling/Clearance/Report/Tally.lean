import Clearance.Register

/-!
# License tallies

The licenses that occur most often among the entries with a status. An entry without a license, or
with an empty one, counts under `unknown`. Of two licenses that occur equally often, the one that
is first by code points comes first.
-/

set_option autoImplicit false

namespace Clearance

/-- The label under which an entry is counted and shown. -/
def Entry.licenseLabel (e : Entry) : String := (e.license?.filter (!·.isEmpty)).getD "unknown"

namespace Tally

/-- A label with the number of its occurrences. -/
abbrev Count := String × Nat

/-- Each of the labels with the number of its occurrences. -/
def counts (labels : List String) : List Count :=
  labels.eraseDups.map fun label => (label, labels.count label)

/-- `a` is not listed behind `b`. -/
def precedes (a b : Count) : Bool := a.2 > b.2 || (a.2 == b.2 && !(b.1 < a.1))

/-- The labels that occur most often, at most three of them. -/
def topThree (labels : List String) : List Count := ((counts labels).mergeSort precedes).take 3

/-- A label and its number of occurrences as text. -/
def Count.text (c : Count) : String := c.1 ++ " (" ++ toString c.2 ++ ")"

end Tally

/-- The licenses that occur most often among the entries with a status, as text; empty where there
is no such entry. -/
def Register.licenseSummary (r : Register) (s : Status) : String :=
  match Tally.topThree ((r.withStatus s).map (·.licenseLabel)) with
  | [] => ""
  | top => "[" ++ ", ".intercalate (top.map Tally.Count.text) ++ "]"

end Clearance
