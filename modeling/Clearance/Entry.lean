import Clearance.Json.Value
import Clearance.Observation

/-!
# Entries

All that has been observed about one requested component. Observations are only ever appended,
so the status of an entry moves from unresolved towards approved and never back.

The license, the authority and the link that an entry reports all come from one observation,
its *leading* one: the approved observation with the highest score, the earliest of several,
or else the last observation of all.

In JSON a status or a verdict is written as its name. It is read from its name, or from an object
whose only field has that name and the value `null`.
-/

set_option autoImplicit false

namespace Clearance

/-- What is known about a component in the end. -/
inductive Status where
  | approved
  | restricted
  /-- No provider knew the component. -/
  | unresolved
  deriving DecidableEq, Repr

namespace Status

/-- The name under which a status is printed and written. -/
def name : Status → String
  | approved => "approved"
  | restricted => "restricted"
  | unresolved => "unresolved"

/-- The status with exactly this name. -/
def ofName? (s : String) : Option Status :=
  [approved, restricted, unresolved].find? (·.name == s)

/-- A status is read back from its name. -/
theorem ofName?_name (s : Status) : ofName? s.name = some s := by
  cases s <;> decide

end Status

/-- The observations about one component, in the order in which they were made. -/
structure Entry where
  id : ComponentId
  observations : List Observation := []
  deriving DecidableEq, Repr

namespace Entry

/-- The entry with one more observation. -/
def add (e : Entry) (o : Observation) : Entry := { e with observations := e.observations ++ [o] }

/-- Approved by some observation, or else restricted by any, or else unresolved. -/
def status (e : Entry) : Status :=
  if e.observations.any (·.verdict == .approved) then .approved
  else if e.observations.isEmpty then .unresolved
  else .restricted

/-- The better of a leading approved observation and a later one: only a higher score wins. -/
def better (best : Option Observation) (o : Observation) : Option Observation :=
  match best with
  | none => some o
  | some b => if o.score > b.score then some o else some b

/-- The observation that the reported license, authority and link come from. -/
def leading? (e : Entry) : Option Observation :=
  ((e.observations.filter (·.verdict == .approved)).foldl better none).or
    e.observations.getLast?

/-- The reported license expression. -/
def license? (e : Entry) : Option String := e.leading?.map (·.license)

/-- What the reported verdict rests on. -/
def authority? (e : Entry) : Option String := e.leading?.map (·.authority)

/-- The link to the reported authority. -/
def url? (e : Entry) : Option String := e.leading?.bind (·.url)

end Entry

/-! ## Statuses and verdicts in JSON -/

/-- The name that a JSON value gives to one of several alternatives. -/
def Json.Value.alternative? : Json.Value → Option String
  | .string name => some name
  | .object [(name, .null)] => some name
  | _ => none

/-- The verdict that a JSON value denotes. -/
def Verdict.ofJson? (v : Json.Value) : Option Verdict := v.alternative?.bind Verdict.ofName?

/-- The status that a JSON value denotes. -/
def Status.ofJson? (v : Json.Value) : Option Status := v.alternative?.bind Status.ofName?

/-- A verdict in JSON. -/
def Verdict.toJson (v : Verdict) : Json.Value := .string v.name

/-- A status in JSON. -/
def Status.toJson (s : Status) : Json.Value := .string s.name

end Clearance
