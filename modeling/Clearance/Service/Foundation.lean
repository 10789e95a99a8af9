import Clearance.Component.Notation
import Clearance.Json.Reader
import Clearance.Provider
import Clearance.Text.Basic
import Clearance.Text.Percent
import Clearance.Transport

/-!
# The foundation's license check

The foundation keeps a list of components that people have reviewed. A call posts the ids of a
batch, and perhaps the project that asks, as a JSON object in a form field. The reply is an object
with two sections, `approved` and `restricted`, whose fields are records:

```json
{ "approved": { "npm/npmjs/@a/b/1": { "id": "npm/npmjs/@a/b/1", "authority": "CQ7766",
    "confidence": "100", "license": "MIT", "status": "approved" } } }
```

Each record of a section leads to exactly one observation or one warning, in the order of the
names of the fields. A section that is missing, or no object, holds no records.

A service without an address is not asked at all, and nothing is known from it.
-/

set_option autoImplicit false

namespace Clearance

universe u

/-- The license check of the foundation. -/
structure Foundation where
  /-- Where requests are posted; blank for no service. -/
  url : String
  /-- The project on whose behalf requests are made. -/
  project : Option String

namespace Foundation

/-- The name of the provider. -/
def name : String := "foundation"

/-- The service in running text. -/
def title : String := "the foundation"

/-- The address of the public service. -/
def publicUrl : String := "https://www.eclipse.org/projects/services/license_check.php"

/-- What a request says: the ids that it asks about, and the project. -/
def payload (ids : List ComponentId) (project : Option String) : Json.Value :=
  let dependencies := ("dependencies", Json.Value.array (ids.map fun id => .string id.canonical))
  .object (dependencies :: (project.map fun p => ("project", Json.Value.string p)).toList)

/-- The request about a batch. -/
def request (service : Foundation) (ids : List ComponentId) : Request where
  url := service.url
  contentType := "application/x-www-form-urlencoded"
  body := Text.formField "request" (payload ids service.project).print

/-- The text of a field of a record; empty where there is none. -/
def textOf (record : Json.Value) (field : String) : String :=
  ((record.field? field).bind (·.string?)).getD ""

/-- The greatest score; a greater number counts as this one. -/
def greatestScore : Nat := Nat.pow 2 32 - 1

/-- The score of a number that is a natural one. -/
def scoreOfNatural (n : Nat) : UInt32 := UInt32.ofNat (min n greatestScore)

/-- The score that a confidence stands for. It is a number or the text of one; anything else, and
text of a number beyond the greatest score, is zero. -/
def confidence (record : Json.Value) : UInt32 :=
  match record.field? "confidence" with
  | some (.string s) =>
    ((Text.readBelow? (greatestScore + 1) (Text.trimChars s.toList)).map scoreOfNatural).getD 0
  | some value => (value.natural?.map scoreOfNatural).getD 0
  | none => 0

/-- The digits that follow a mark at the start of a text, where nothing else does. -/
def ticketNumber? (mark : List Char) (authority : List Char) : Option String :=
  match mark.isPrefixOf authority, authority.drop mark.length with
  | true, c :: cs => if (c :: cs).all Char.isDigit then some (String.ofList (c :: cs)) else none
  | _, _ => none

/-- The page of the review that an authority names: `CQ` and a number for a questionnaire, `#` and
a number for an issue. -/
def reviewUrl? (authority : String) : Option String :=
  match ticketNumber? ['C', 'Q'] authority.toList with
  | some number => some ("https://dev.eclipse.org/ipzilla/show_bug.cgi?id=" ++ number)
  | none =>
    (ticketNumber? ['#'] authority.toList).map fun number =>
      "https://gitlab.eclipse.org/eclipsefdn/emo-team/iplab/-/issues/" ++ number

/-- The observation that a record stands for, if its id can be read. -/
def observation? (record : Json.Value) : Option Observation := do
  let id ← ComponentId.ofCanonical? (← (← record.field? "id").string?)
  let authority := textOf record "authority"
  return {
    id
    license := textOf record "license"
    score := confidence record
    verdict := if textOf record "status" = "approved" then .approved else .restricted
    authority
    url := reviewUrl? authority }

/-- The names of the sections, in the order in which they are read. -/
def sections : List String := ["approved", "restricted"]

/-- The records of a reply, each with the section in which it stands. -/
def records (reply : Json.Value) : List (String × Json.Value) :=
  sections.flatMap fun listing =>
    (((reply.field? listing).bind (·.fields?)).getD []).map fun field => (listing, field.2)

/-- What is reported about a record. -/
def event (record : String × Json.Value) : Event :=
  match observation? record.2 with
  | some o => .foundationRecord record.1 o
  | none => .foundationUnreadable record.2

/-- The observations of a reply. -/
def observations (reply : Json.Value) : List Observation :=
  (records reply).filterMap fun record => observation? record.2

/-- The answer that a reply leads to. -/
def answer (count : Nat) (reply : Reply) : Answer :=
  let opened := [Event.querying title count]
  match reply with
  | .failed => { opened, failure? := some .transport }
  | .answered status body =>
    if !Transport.isSuccess status then { opened, failure? := some (.status status) }
    else
      match Json.Value.read? (Transport.bodyText body) with
      | none => { opened, failure? := some .malformed }
      | some value =>
        let found := observations value
        { opened, found, settled := (records value).map event ++ [.found found.length] }

/-- The service as a provider. -/
def provider {σ : Type u} (service : Foundation) (transport : Transport σ) : Provider σ where
  name := name
  query ids world :=
    if ids.isEmpty then ({}, world)
    else if Text.isBlankText service.url then ({ opened := [.foundationBypassed] }, world)
    else
      let (reply, next) := transport (service.request ids) world
      (answer ids.length reply, next)

end Foundation

end Clearance
