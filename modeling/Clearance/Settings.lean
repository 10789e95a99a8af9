import Clearance.Resolution.Options
import Clearance.Service.ClearlyDefined

/-!
# Settings

What a deployment can configure: the licenses that it accepts, the options of its resolutions, and
the services that it asks, in order. Everything has a usual value.

A service is asked at most once. Asking it again would only repeat what it did not approve.
-/

set_option autoImplicit false

namespace Clearance

universe u

/-- A service that can be asked. -/
inductive Service where
  | foundation
  | clearlyDefined
  deriving DecidableEq, Repr

namespace Service

/-- The name of the service, which is also the name of its provider. -/
def name : Service → String
  | foundation => Foundation.name
  | clearlyDefined => ClearlyDefined.name

/-- The service with exactly this name. -/
def ofName? (s : String) : Option Service := [foundation, clearlyDefined].find? (·.name == s)

/-- A service is read back from its name. -/
theorem ofName?_name (s : Service) : ofName? s.name = some s := by
  cases s <;> decide

/-- The first service in the list that repeats an earlier one. -/
def firstRepeated? (order : List Service) : Option Service :=
  go [] order
where
  /-- The first service that is one of `seen` or of those before it. -/
  go (seen : List Service) : List Service → Option Service
    | [] => none
    | s :: rest => if s ∈ seen then some s else go (s :: seen) rest

end Service

/-- The settings of a deployment. -/
structure Settings where
  /-- The accepted licenses; the standard ones where there are none. -/
  approved : Option (List String) := none
  batchSize : Nat := 1000
  timeoutSeconds : Nat := 60
  mode : FailureMode := .bestEffort
  concurrency : Nat := 1
  /-- The services to ask, in order. -/
  order : List Service := [.foundation, .clearlyDefined]
  foundationUrl : String := Foundation.publicUrl
  clearlyDefinedUrl : String := ClearlyDefined.publicUrl
  /-- The score from which definitions of ClearlyDefined are trusted. -/
  threshold : Nat := ClearlyDefined.usualThreshold
  /-- The project on whose behalf the foundation is asked. -/
  project : Option String := none
  deriving DecidableEq, Repr

namespace Settings

/-- The accepted licenses as a set. -/
def approvedSet (s : Settings) : License.ApprovedSet :=
  match s.approved with
  | some entries => .ofList entries
  | none => .standard

/-- The options of a resolution. -/
def options (s : Settings) : Options where
  batchSize := s.batchSize
  timeout := .ofSeconds s.timeoutSeconds
  mode := s.mode
  concurrency := s.concurrency

/-- The reason to refuse the order of the services, if there is one. -/
def refusal? (s : Settings) : Option InvalidArgument :=
  (Service.firstRepeated? s.order).map fun service => .repeatedProvider service.name

/-- A service as a provider. -/
def provider {σ : Type u} (s : Settings) (transport : Transport σ) : Service → Provider σ
  | .foundation =>
    Foundation.provider { url := s.foundationUrl, project := s.project } transport
  | .clearlyDefined =>
    ClearlyDefined.provider
      { url := s.clearlyDefinedUrl, approved := s.approvedSet, threshold := s.threshold } transport

/-- The providers to ask, in order. -/
def providers {σ : Type u} (s : Settings) (transport : Transport σ) :
    Except InvalidArgument (List (Provider σ)) :=
  match s.refusal? with
  | some refusal => .error refusal
  | none => .ok (s.order.map (s.provider transport))

end Settings

end Clearance
