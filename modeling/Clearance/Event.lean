import Clearance.Json.Writer
import Clearance.Observation
import Clearance.Provider.Failure

/-!
# Events

What a resolution reports while it runs, as values. Each event has a level and a message; a
reader of the log chooses the least severe level that is still shown.
-/

set_option autoImplicit false

namespace Clearance

/-- How severe an event is, the least severe first. -/
inductive Level where
  | debug
  | info
  | warn
  deriving DecidableEq, Repr

namespace Level

/-- The name of a level in the log. -/
def name : Level → String
  | debug => "DEBUG"
  | info => "INFO"
  | warn => "WARN"

/-- The severity of a level as a number. -/
def rank : Level → Nat
  | debug => 0
  | info => 1
  | warn => 2

end Level

/-- Something that happened during a resolution. -/
inductive Event where
  /-- A provider was not asked, because nothing was pending. -/
  | skipped (provider : String)
  /-- A provider is about to be asked about a number of components. -/
  | asking (provider : String) (count : Nat)
  /-- A call failed, and the resolution goes on without its answers. -/
  | failed (provider : String) (count : Nat) (cause : Failure)
  /-- A provider answered about a component that its call did not ask about. -/
  | notAskedFor (provider : String) (id : ComponentId)
  /-- The resolution is complete. -/
  | resolved (count unresolved : Nat)
  /-- The foundation is not asked, because it has no address. -/
  | foundationBypassed
  /-- A request goes to the service with this name in running text. -/
  | querying (service : String) (count : Nat)
  /-- The answer of a service holds a number of readable records. -/
  | found (count : Nat)
  /-- A record of the foundation, in the section where it stood. -/
  | foundationRecord (listing : String) (record : Observation)
  /-- A record of the foundation that cannot be read. -/
  | foundationUnreadable (record : Json.Value)
  /-- A definition by ClearlyDefined. -/
  | definition (record : Observation)
  /-- A definition by ClearlyDefined under a key that is no id. -/
  | definitionUnreadable (key : String)

namespace Event

/-- The level of an event. -/
def level : Event → Level
  | skipped _ | asking _ _ | foundationBypassed | foundationRecord _ _ | definition _ => .debug
  | resolved _ _ | querying _ _ | found _ => .info
  | failed _ _ _ | notAskedFor _ _ | foundationUnreadable _ | definitionUnreadable _ => .warn

/-- The message of an event. -/
def message : Event → String
  | skipped provider => "Skipping " ++ provider ++ ": nothing left to resolve."
  | asking provider count => "Asking " ++ provider ++ " about " ++ toString count ++ " items."
  | failed provider count cause =>
    provider ++ " failed for a batch of " ++ toString count ++
      " items; continuing without it: " ++ cause.message
  | notAskedFor provider id =>
    provider ++ " answered for " ++ id.canonical ++ ", which was not asked for; ignoring."
  | resolved count unresolved =>
    "Resolved " ++ toString count ++ " items (" ++ toString unresolved ++ " unresolved)."
  | foundationBypassed => "Bypassing the foundation license check (no URL configured)."
  | querying service count =>
    "Querying " ++ service ++ " for license data for " ++ toString count ++ " items."
  | found count => "Found " ++ toString count ++ " items."
  | foundationRecord listing o =>
    "Foundation " ++ listing ++ ": " ++ o.id.canonical ++ " score: " ++ toString o.score ++ " " ++
      o.license ++ " " ++ o.authority
  | foundationUnreadable record => "Skipping unreadable foundation record: " ++ record.print
  | definition o =>
    "ClearlyDefined " ++ o.verdict.name ++ ": " ++ o.id.canonical ++ " score: " ++
      toString o.score ++ " " ++ o.license
  | definitionUnreadable key =>
    "Skipping ClearlyDefined definition with unreadable id " ++ key

/-- The line of an event in the log. -/
def line (e : Event) : String := e.level.name ++ " " ++ e.message

end Event

end Clearance
