import Clearance.Component.Id

/-!
# Observations

What a provider says about one component: a license expression as the provider wrote it, how
sure the provider is of it, whether the component may be used, and what the verdict rests on.
-/

set_option autoImplicit false

namespace Clearance

/-- Whether a component may be used. -/
inductive Verdict where
  | approved
  | restricted
  deriving DecidableEq, Repr

namespace Verdict

/-- The name under which a verdict is printed and written. -/
def name : Verdict → String
  | approved => "approved"
  | restricted => "restricted"

/-- The verdict with exactly this name. -/
def ofName? (s : String) : Option Verdict := [approved, restricted].find? (·.name == s)

/-- A verdict is read back from its name. -/
theorem ofName?_name (v : Verdict) : ofName? v.name = some v := by
  cases v <;> decide

end Verdict

/-- One provider's statement about one component. -/
structure Observation where
  id : ComponentId
  /-- The license expression, as the provider wrote it. -/
  license : String
  /-- The provider's confidence in the license. -/
  score : UInt32
  verdict : Verdict
  /-- What the verdict rests on: a review ticket, or the provider itself. -/
  authority : String
  url : Option String
  deriving DecidableEq, Repr

end Clearance
