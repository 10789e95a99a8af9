import Clearance.Json.Writer
import Clearance.Register

/-!
# Report rows

What every report says about a component: its id, the reported license, the status, what the
verdict rests on and where that can be looked up. A register has one row for each entry, in the
order of the ids.

The rows are written as a JSON array and as the lines of a summary, in which an absent or empty
license is `unknown` and an absent or empty authority is `none`.
-/

set_option autoImplicit false

namespace Clearance

/-- What the reports say about one component. -/
structure Row where
  id : ComponentId
  license : Option String
  status : Status
  authority : Option String
  url : Option String
  deriving DecidableEq, Repr

namespace Row

/-- The row of an entry. -/
def ofEntry (e : Entry) : Row where
  id := e.id
  license := e.license?
  status := e.status
  authority := e.authority?
  url := e.url?

/-- Text that may be absent, in JSON. -/
def textOrNull (text : Option String) : Json.Value := (text.map Json.Value.string).getD .null

/-- The row in JSON. -/
def toJson (row : Row) : Json.Value :=
  .object [("id", .string row.id.canonical), ("license", textOrNull row.license),
    ("status", row.status.toJson), ("authority", textOrNull row.authority),
    ("url", textOrNull row.url)]

/-- The text, or something else where it is absent or empty. -/
def textOr (otherwise : String) (text : Option String) : String :=
  (text.filter (!·.isEmpty)).getD otherwise

/-- The line of the row in a summary. -/
def summaryLine (row : Row) : String :=
  row.id.canonical ++ ", " ++ textOr "unknown" row.license ++ ", " ++ row.status.name ++ ", " ++
    textOr "none" row.authority ++ "\n"

end Row

namespace Register

/-- The rows of a register. -/
def reportRows (r : Register) : List Row := r.entries.map Row.ofEntry

/-- The rows of a register in JSON, one field to a line. -/
def jsonReport (r : Register) : String :=
  (Json.Value.array (r.reportRows.map Row.toJson)).printPretty ++ "\n"

/-- The summary of a register, one line for each row. -/
def summary (r : Register) : String := String.join (r.reportRows.map Row.summaryLine)

end Register

end Clearance
