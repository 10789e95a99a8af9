import Clearance.Batches
import Clearance.Provider
import Clearance.Register
import Clearance.Resolution.Options

/-!
# Resolution

A resolution asks providers about components, in the order of the providers, and gathers what they
answer in a register with one entry for each component that was asked for.

* A provider is asked about the components that are valid and that no earlier provider approved. It
  is skipped if there are none, so an approval is final.
* It is asked in batches. A window of calls is in flight; their outcomes are handed over in the
  order of the batches, and after each the next waiting batch is started.
* The observations of a call that succeeds are merged. A call that fails leaves nothing behind but
  a warning or, where failures are fatal, the end of the resolution.

Since outcomes are handed over in order and each component belongs to one batch, the register does
not depend on how many calls are in flight.
-/

set_option autoImplicit false

namespace Clearance

universe u

/-- The warnings about observations that a call about `batch` did not ask for. -/
def strayEvents (provider : String) (batch : List ComponentId) (found : List Observation) :
    List Event :=
  (found.filter fun o => !o.id.isIn batch).map fun o => .notAskedFor provider o.id

/-- A call that has been started, with the batch that it asks about. -/
structure Call where
  batch : List ComponentId
  answer : Answer

/-- The calls to one provider that are not handed over yet. -/
structure Window where
  /-- The calls in flight, the oldest first. -/
  inFlight : List Call
  /-- The batches that are not started yet. -/
  waiting : List (List ComponentId)

/-- How far a resolution has come. -/
structure Progress (σ : Type u) where
  register : Register
  world : σ
  /-- The events so far. -/
  log : List Event
  /-- The batches that the current provider has been asked about. -/
  asked : List (List ComponentId)

namespace Progress

variable {σ : Type u}

/-- The progress with more events. -/
def report (s : Progress σ) (events : List Event) : Progress σ := { s with log := s.log ++ events }

/-- Starts the next waiting call, if there is one. -/
def start (p : Provider σ) (limit : Duration) (w : Window) (s : Progress σ) :
    Window × Progress σ :=
  match w.waiting with
  | [] => (w, s)
  | batch :: waiting =>
    let (answer, world) := p.query batch s.world
    (⟨w.inFlight ++ [⟨batch, answer.within limit⟩], waiting⟩,
      { s with world, asked := s.asked ++ [batch] }.report answer.opened)

/-- Starts up to `count` waiting calls. -/
def fill (p : Provider σ) (limit : Duration) : (count : Nat) → Window → Progress σ →
    Window × Progress σ
  | 0, w, s => (w, s)
  | count + 1, w, s =>
    let (w, s) := s.start p limit w
    fill p limit count w s

/-- Hands over the outcome of a call, and says if its failure ends the resolution. -/
def handOver (provider : String) (mode : FailureMode) (call : Call) (s : Progress σ) :
    Progress σ × Option Failure :=
  let s := s.report call.answer.settled
  match call.answer.failure?, mode with
  | none, _ =>
    ({ s with register := s.register.merge call.batch call.answer.found }.report
      (strayEvents provider call.batch call.answer.found), none)
  | some failure, .bestEffort => (s.report [.failed provider call.batch.length failure], none)
  | some failure, .failFast => (s, some failure)

/-- Hands over up to `rounds` calls, the oldest first, and starts a waiting call after each. -/
def drain (p : Provider σ) (o : Options) : (rounds : Nat) → Window → Progress σ →
    Progress σ × Option Failure
  | 0, _, s => (s, none)
  | rounds + 1, w, s =>
    match w.inFlight with
    | [] => (s, none)
    | call :: inFlight =>
      match s.handOver p.name o.mode call with
      | (s, some failure) => (s, some failure)
      | (s, none) =>
        let (w, s) := s.start p o.timeout { w with inFlight }
        drain p o rounds w s

/-- Asks a provider about batches, and says if a failure ends the resolution. -/
def ask (p : Provider σ) (o : Options) (batches : List (List ComponentId)) (s : Progress σ) :
    Progress σ × Option Failure :=
  let (w, s) := s.fill p o.timeout (min o.concurrency batches.length) ⟨[], batches⟩
  s.drain p o batches.length w

end Progress

/-- How a resolution ends. -/
inductive Outcome where
  | complete
  /-- A call to a provider failed, and failures are fatal. -/
  | unavailable (provider : String) (cause : Failure)
  deriving DecidableEq, Repr

namespace Outcome

/-- The message for a resolution that is not complete. -/
def message? : Outcome → Option String
  | complete => none
  | unavailable provider cause =>
    some ("license data provider `" ++ provider ++ "` is unavailable: " ++ cause.message)

end Outcome

/-- What a resolution leads to. -/
structure Resolution (σ : Type u) where
  outcome : Outcome
  /-- An entry for each component; where the outcome is not complete, with what had been merged. -/
  register : Register
  /-- For each provider the batches that it was asked about, in order. -/
  asked : List (List (List ComponentId))
  log : List Event
  world : σ

namespace Resolution

variable {σ : Type u}

/-- The components that a provider is to be asked about: valid, and not approved so far. -/
def pending (r : Register) (ids : List ComponentId) : List ComponentId :=
  ids.filter fun id =>
    id.isValid && (r.find? id.canonical).map Entry.status != some .approved

/-- The end of a resolution that no failure cut short. -/
def finish (s : Progress σ) : Resolution σ where
  outcome := .complete
  register := s.register
  asked := []
  log := s.log ++ [.resolved s.register.size (s.register.withStatus .unresolved).length]
  world := s.world

/-- Asks each provider in turn about what is pending among `ids`. -/
def visit (o : Options) (size_pos : 0 < o.batchSize) (ids : List ComponentId) :
    List (Provider σ) → Progress σ → Resolution σ
  | [], s => finish s
  | p :: providers, s =>
    match pending s.register ids with
    | [] =>
      let rest := visit o size_pos ids providers (s.report [.skipped p.name])
      { rest with asked := [] :: rest.asked }
    | batch =>
      let batches := Batches.chunks o.batchSize size_pos batch
      let begun := { s with asked := [] }.report [.asking p.name batch.length]
      match begun.ask p o batches with
      | (s, some failure) =>
        { outcome := .unavailable p.name failure
          register := s.register
          asked := s.asked :: providers.map fun _ => []
          log := s.log
          world := s.world }
      | (s, none) =>
        let rest := visit o size_pos ids providers s
        { rest with asked := s.asked :: rest.asked }

end Resolution

/-- Resolves components with providers; of several ids for one component, the first counts. -/
def resolve {σ : Type u} (providers : List (Provider σ)) (o : Options) (ids : List ComponentId)
    (world : σ) : Except InvalidArgument (Resolution σ) :=
  match h : o.refusal? with
  | some refusal => .error refusal
  | none =>
    let requested := ComponentId.firstOccurrences ids
    .ok (Resolution.visit o (o.batchSize_pos h) requested providers
      ⟨.ofIds requested, world, [], []⟩)

end Clearance
