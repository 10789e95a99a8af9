import Clearance.Event

/-!
# Providers

A provider of license data answers calls, each about a batch of components. A call changes the
world that it is made in: a server that runs out of prepared answers, a clock, a counter. The
world is a value of a type that the provider leaves open, and a call returns the next one.

An answer keeps apart what the provider reports when the call begins and when it ends, because a
call that runs out of time begins but does not end.
-/

set_option autoImplicit false

namespace Clearance

universe u

/-- What one call to a provider leads to. -/
structure Answer where
  /-- The events before the provider waits for anything. -/
  opened : List Event := []
  /-- The events after that. -/
  settled : List Event := []
  /-- The observations, in the order in which they were made. -/
  found : List Observation := []
  /-- The failure that the call ends in, if it does. -/
  failure? : Option Failure := none
  /-- The time that the call takes. -/
  elapsed : Duration := ⟨0⟩

namespace Answer

/-- The answer as it looks when the call is given up after `limit`: a call that takes longer reports
nothing more, and fails. -/
def within (a : Answer) (limit : Duration) : Answer :=
  if a.elapsed.nanoseconds > limit.nanoseconds then
    { opened := a.opened, failure? := some (.timeout limit), elapsed := limit }
  else a

end Answer

/-- A provider of license data, in a world of type `σ`. -/
structure Provider (σ : Type u) where
  name : String
  /-- The answer to a call about a batch, and the world after it. -/
  query : List ComponentId → σ → Answer × σ

end Clearance
