import Clearance.License.ApprovedSet
import Clearance.Service.Foundation

/-!
# ClearlyDefined

ClearlyDefined harvests license data from the components themselves. A call posts the ids of a
batch as a JSON array, and the reply is an object of definitions with the ids as names. The
verdict is not ClearlyDefined's but follows from the approved licenses of the deployment: a
component is approved when

* one of the two scores of its definition reaches the threshold,
* its declared license is approved, and
* every license discovered in its files is approved, `NONE` apart.

Each definition leads to exactly one observation, or to one warning if its name is no id.
-/

set_option autoImplicit false

namespace Clearance

universe u

/-- The definitions service of ClearlyDefined. -/
structure ClearlyDefined where
  /-- Where requests are posted. -/
  url : String
  /-- The licenses that the deployment accepts. -/
  approved : License.ApprovedSet
  /-- The score from which a definition is trusted. -/
  threshold : Nat

namespace ClearlyDefined

/-- The name of the provider, which is also the authority of its observations. -/
def name : String := "clearlydefined"

/-- The service in running text. -/
def title : String := "ClearlyDefined"

/-- The address of the public service. -/
def publicUrl : String := "https://api.clearlydefined.io/definitions"

/-- The threshold where no other is configured. -/
def usualThreshold : Nat := 60

/-- The service refuses a whole request over one id of a kind that it does not know; p2 bundles
are the kind that is known to be missing there. -/
def isSupported (id : ComponentId) : Bool := id.kind? != some "p2"

/-- The request about supported ids. -/
def request (service : ClearlyDefined) (ids : List ComponentId) : Request where
  url := service.url
  contentType := "application/json"
  body := (Json.Value.array (ids.map fun id => .string id.canonical)).print

/-- The declared license; empty where there is none. -/
def declared (definition : Json.Value) : String :=
  ((definition.at? ["licensed", "declared"]).bind (·.string?)).getD ""

/-- The score at a path of a definition; zero where there is no natural number. -/
def scoreAt (definition : Json.Value) (path : List String) : UInt32 :=
  (((definition.at? path).bind (·.natural?)).map Foundation.scoreOfNatural).getD 0

/-- How sure ClearlyDefined is of the license. -/
def licenseScore (definition : Json.Value) : UInt32 :=
  scoreAt definition ["licensed", "score", "total"]

/-- How sure ClearlyDefined is of the definition as a whole. -/
def effectiveScore (definition : Json.Value) : UInt32 := scoreAt definition ["scores", "effective"]

/-- The licenses discovered in the files of the component. -/
def discovered (definition : Json.Value) : List String :=
  (((definition.at? ["licensed", "facets", "core", "discovered", "expressions"]).bind
    (·.items?)).getD []).filterMap (·.string?)

/-- What stands for "no license found" among the discovered licenses. -/
def nothingFound : String := "NONE"

/-- One of the scores reaches the threshold. -/
def isConfident (service : ClearlyDefined) (definition : Json.Value) : Bool :=
  service.threshold ≤ (effectiveScore definition).toNat ||
    service.threshold ≤ (licenseScore definition).toNat

/-- The verdict on a definition. -/
def judge (service : ClearlyDefined) (definition : Json.Value) : Verdict :=
  if service.isConfident definition &&
      (declared definition :: (discovered definition).filter (· != nothingFound)).all
        (service.approved.judgeText · == .approved) then
    .approved
  else .restricted

/-- The observation that a definition of a component stands for. -/
def observation (service : ClearlyDefined) (id : ComponentId) (definition : Json.Value) :
    Observation where
  id := id
  license := declared definition
  score := licenseScore definition
  verdict := service.judge definition
  authority := name
  url := some ("https://clearlydefined.io/definitions/" ++ id.canonical)

/-- The observation that a field of a reply stands for, if its name is an id. -/
def observation? (service : ClearlyDefined) (field : String × Json.Value) : Option Observation :=
  (ComponentId.ofCanonical? field.1).map fun id => service.observation id field.2

/-- What is reported about a field of a reply. -/
def event (service : ClearlyDefined) (field : String × Json.Value) : Event :=
  match service.observation? field with
  | some o => .definition o
  | none => .definitionUnreadable field.1

/-- The answer that a reply leads to. -/
def answer (service : ClearlyDefined) (count : Nat) (reply : Reply) : Answer :=
  let opened := [Event.querying title count]
  match reply with
  | .failed => { opened, failure? := some .transport }
  | .answered status body =>
    if !Transport.isSuccess status then { opened, failure? := some (.status status) }
    else
      match Json.Value.read? (Transport.bodyText body) with
      | none => { opened, failure? := some .malformed }
      | some (.object fields) =>
        let found := fields.filterMap service.observation?
        { opened, found, settled := fields.map service.event ++ [.found found.length] }
      | some _ => { opened, failure? := some .notAnObject }

/-- The service as a provider. -/
def provider {σ : Type u} (service : ClearlyDefined) (transport : Transport σ) : Provider σ where
  name := name
  query ids world :=
    match ids.filter isSupported with
    | [] => ({}, world)
    | supported =>
      let (reply, next) := transport (service.request supported) world
      (service.answer supported.length reply, next)

end ClearlyDefined

end Clearance
