import Clearance.Proofs.Register
import Clearance.Resolution

/-!
# Calls one by one

The laws of a resolution are stated over a plainer account of it than its window of calls: the
calls of a provider are made one by one (`Provider.calls`), and their outcomes are settled in the
same order (`settle`), each by merging what it delivers or by ending the resolution.

* A call succeeds when it comes back in time and without a failure; nothing else delivers
  anything (`Call.succeeds`, `Call.delivered`).
* Settling a list of calls hears all of them if none of the failures is fatal, and else those
  before the first fatal one (`settle_eq_complete_iff`, `settle_append_fatal`).
* What settled calls leave in an entry is what they delivered about its component, in their order
  (`find?_hearAll`).
-/

set_option autoImplicit false

namespace Clearance

universe u

variable {σ : Type u}

/-! ## Single calls -/

namespace Call

/-- The call comes back in time and without a failure. -/
def succeeds (limit : Duration) (c : Call) : Bool :=
  decide (c.answer.elapsed.nanoseconds ≤ limit.nanoseconds) && c.answer.failure?.isNone

/-- The observations of a call that succeeds; what any other call has found is lost. -/
def delivered (limit : Duration) (c : Call) : List Observation :=
  if c.succeeds limit then c.answer.found else []

/-- Why a call fails: it takes longer than the limit, or else its provider gives it up. -/
def failure? (limit : Duration) (c : Call) : Option Failure :=
  if limit.nanoseconds < c.answer.elapsed.nanoseconds then some (.timeout limit)
  else c.answer.failure?

/-- The failure of a call where it ends the resolution. -/
def fatal? (limit : Duration) : FailureMode → Call → Option Failure
  | .bestEffort, _ => none
  | .failFast, c => c.failure? limit

/-- The call as a window holds it, given up after the limit. -/
def within (limit : Duration) (c : Call) : Call := { c with answer := c.answer.within limit }

/-- What a call delivers about the component with a canonical text, if its batch has it. -/
def about (limit : Duration) (key : String) (c : Call) : List Observation :=
  (c.delivered limit).filter fun o => o.id.isIn c.batch && o.id.canonical == key

/-- A call succeeds exactly if it has no failure. -/
theorem failure?_eq_none_iff {limit : Duration} {c : Call} :
    c.failure? limit = none ↔ c.succeeds limit = true := by
  unfold failure? succeeds
  split
  · next hlate => simp [Nat.not_le.2 hlate]
  · next hintime => simp [Nat.not_lt.1 hintime]

/-- A call without a failure ends no resolution. -/
theorem fatal?_eq_none {limit : Duration} {mode : FailureMode} {c : Call}
    (h : c.failure? limit = none) : c.fatal? limit mode = none := by
  cases mode with
  | bestEffort => rfl
  | failFast => exact h

/-- A call that fails delivers nothing. -/
theorem delivered_of_failure? {limit : Duration} {c : Call} {failure : Failure}
    (h : c.failure? limit = some failure) : c.delivered limit = [] := by
  have hfails : ¬ c.succeeds limit = true := by
    rw [← failure?_eq_none_iff, h]
    exact Option.some_ne_none failure
  rw [delivered, if_neg hfails]

/-- A call that is given up fails as one that comes too late. -/
theorem failure?_within (limit : Duration) (c : Call) :
    (c.within limit).answer.failure? = c.failure? limit := by
  unfold within failure? Answer.within
  split <;> rfl

/-- What is found in time is delivered. -/
theorem found_within {limit : Duration} {c : Call} (h : c.failure? limit = none) :
    (c.within limit).answer.found = c.delivered limit := by
  have hsucceeds := failure?_eq_none_iff.1 h
  have hintime : ¬ limit.nanoseconds < c.answer.elapsed.nanoseconds := by
    simp only [succeeds, Bool.and_eq_true, decide_eq_true_eq] at hsucceeds
    omega
  rw [delivered, if_pos hsucceeds, within, Answer.within, if_neg hintime]

end Call

/-! ## The calls to one provider -/

namespace Provider

/-- The provider that gives the same answer to every call. -/
def constant (name : String) (answer : Answer) : Provider σ where
  name := name
  query _ world := (answer, world)

/-- The call about a batch, as it is made in a world. -/
def call (p : Provider σ) (batch : List ComponentId) (world : σ) : Call where
  batch := batch
  answer := (p.query batch world).1

/-- The calls about batches, each made in the world that the one before it has left. -/
def calls (p : Provider σ) : List (List ComponentId) → σ → List Call
  | [], _ => []
  | batch :: batches, world => p.call batch world :: p.calls batches (p.query batch world).2

/-- The world after the queries about some batches. -/
def worldAfter (p : Provider σ) : List (List ComponentId) → σ → σ
  | [], world => world
  | batch :: batches, world => p.worldAfter batches (p.query batch world).2

/-- The calls are about the batches, in their order. -/
@[simp] theorem batch_calls (p : Provider σ) (batches : List (List ComponentId)) (world : σ) :
    (p.calls batches world).map (·.batch) = batches := by
  induction batches generalizing world with
  | nil => rfl
  | cons batch batches ih => rw [calls, List.map_cons, ih, call]

/-- The calls are about the ids of the batches, in their order. -/
theorem flatMap_batch_calls (p : Provider σ) (batches : List (List ComponentId)) (world : σ) :
    (p.calls batches world).flatMap (·.batch) = batches.flatten := by
  rw [List.flatMap_def, batch_calls]

/-- The calls about later batches meet the world after the earlier ones. -/
theorem calls_append (p : Provider σ) (a b : List (List ComponentId)) (world : σ) :
    p.calls (a ++ b) world = p.calls a world ++ p.calls b (p.worldAfter a world) := by
  induction a generalizing world with
  | nil => rfl
  | cons batch a ih => simp only [List.cons_append, calls, worldAfter, ih]

/-- The world goes on from one list of batches to the next. -/
theorem worldAfter_append (p : Provider σ) (a b : List (List ComponentId)) (world : σ) :
    p.worldAfter (a ++ b) world = p.worldAfter b (p.worldAfter a world) := by
  induction a generalizing world with
  | nil => rfl
  | cons batch a ih => exact ih _

end Provider

/-! ## Hearing calls -/

namespace Register

/-- The register after the outcome of a call, where that does not end the resolution. -/
def hear (limit : Duration) (r : Register) (c : Call) : Register :=
  r.merge c.batch (c.delivered limit)

/-- The register after the outcomes of calls, in their order. -/
def hearAll (limit : Duration) (r : Register) (calls : List Call) : Register :=
  calls.foldl (hear limit) r

/-- Without calls the register stays as it is. -/
@[simp] theorem hearAll_nil (limit : Duration) (r : Register) : r.hearAll limit [] = r := rfl

/-- The calls are heard one after the other. -/
@[simp] theorem hearAll_cons (limit : Duration) (r : Register) (c : Call) (calls : List Call) :
    r.hearAll limit (c :: calls) = (r.hear limit c).hearAll limit calls := rfl

/-- Calls that are heard in two goes could be heard in one. -/
theorem hearAll_append (limit : Duration) (r : Register) (a b : List Call) :
    r.hearAll limit (a ++ b) = (r.hearAll limit a).hearAll limit b :=
  List.foldl_append

/-- A call that fails leaves the register as it is. -/
theorem hear_of_failure? {limit : Duration} {c : Call} {failure : Failure}
    (h : c.failure? limit = some failure) (r : Register) : r.hear limit c = r := by
  rw [hear, Call.delivered_of_failure? h, merge_nil]

/-- An entry gains what the calls deliver about its component, in their order. -/
theorem find?_hearAll (limit : Duration) (r : Register) (calls : List Call) (key : String) :
    (r.hearAll limit calls).find? key =
      (r.find? key).map (·.addAll (calls.flatMap (·.about limit key))) := by
  induction calls generalizing r with
  | nil => simp
  | cons c calls ih =>
    have hhead : (r.hear limit c).find? key = (r.find? key).map (·.addAll (c.about limit key)) :=
      find?_merge r c.batch (c.delivered limit) key
    rw [hearAll_cons, ih, hhead, List.flatMap_cons]
    simp [Function.comp_def]

/-- Calls that are heard extend the register. -/
theorem extends_hearAll (limit : Duration) (r : Register) (calls : List Call) :
    r.Extends (r.hearAll limit calls) := by
  intro key
  exact ⟨_, find?_hearAll limit r calls key⟩

end Register

/-! ## Settling calls -/

/-- What the outcomes of calls lead to, in their order. Each call stands with the name of its
provider. -/
def settle (limit : Duration) (mode : FailureMode) : List (String × Call) → Register →
    Outcome × Register
  | [], r => (.complete, r)
  | (provider, c) :: rest, r =>
    match c.fatal? limit mode with
    | some failure => (.unavailable provider failure, r)
    | none => settle limit mode rest (r.hear limit c)

section settle

variable {limit : Duration} {mode : FailureMode}

/-- A fatal failure ends the resolution at once. -/
theorem settle_cons_fatal {provider : String} {c : Call} {failure : Failure}
    (h : c.fatal? limit mode = some failure) (rest : List (String × Call)) (r : Register) :
    settle limit mode ((provider, c) :: rest) r = (.unavailable provider failure, r) := by
  rw [settle, h]

/-- A call that is not fatal is heard, and the next one follows. -/
theorem settle_cons {provider : String} {c : Call} (h : c.fatal? limit mode = none)
    (rest : List (String × Call)) (r : Register) :
    settle limit mode ((provider, c) :: rest) r = settle limit mode rest (r.hear limit c) := by
  rw [settle, h]

/-- Calls after others are settled where the others leave off, unless one of them ended the
resolution. -/
theorem settle_append (a b : List (String × Call)) (r : Register) :
    settle limit mode (a ++ b) r =
      match settle limit mode a r with
      | (.complete, r') => settle limit mode b r'
      | stopped => stopped := by
  induction a generalizing r with
  | nil => rfl
  | cons call a ih =>
    obtain ⟨provider, c⟩ := call
    cases hfatal : c.fatal? limit mode with
    | some failure =>
      rw [List.cons_append, settle_cons_fatal hfatal, settle_cons_fatal hfatal]
    | none => rw [List.cons_append, settle_cons hfatal, settle_cons hfatal, ih]

/-- Calls are all heard exactly when none of them ends the resolution. -/
theorem settle_eq_complete_iff {calls : List (String × Call)} {r r' : Register} :
    settle limit mode calls r = (.complete, r') ↔
      (∀ call ∈ calls, call.2.fatal? limit mode = none) ∧
        r' = r.hearAll limit (calls.map (·.2)) := by
  induction calls generalizing r with
  | nil => simp [settle, eq_comm]
  | cons call calls ih =>
    obtain ⟨provider, c⟩ := call
    cases hfatal : c.fatal? limit mode with
    | some failure => simp [settle_cons_fatal hfatal, hfatal]
    | none => simp [settle_cons hfatal, hfatal, ih]

/-- A fatal failure ends the resolution with what the calls before it have delivered. -/
theorem settle_append_fatal {before : List (String × Call)}
    (harmless : ∀ call ∈ before, call.2.fatal? limit mode = none) {provider : String} {c : Call}
    {failure : Failure} (h : c.fatal? limit mode = some failure) (after : List (String × Call))
    (r : Register) :
    settle limit mode (before ++ (provider, c) :: after) r =
      (.unavailable provider failure, r.hearAll limit (before.map (·.2))) := by
  rw [settle_append, settle_eq_complete_iff.2 ⟨harmless, rfl⟩]
  exact settle_cons_fatal h after _

/-- Without fatal failures all calls are heard. -/
theorem settle_bestEffort (calls : List (String × Call)) (r : Register) :
    settle limit .bestEffort calls r = (.complete, r.hearAll limit (calls.map (·.2))) :=
  settle_eq_complete_iff.2 ⟨fun _ _ => rfl, rfl⟩

/-- Calls that are settled extend the register. -/
theorem extends_settle (limit : Duration) (mode : FailureMode) (calls : List (String × Call))
    (r : Register) :
    r.Extends (settle limit mode calls r).2 := by
  induction calls generalizing r with
  | nil => exact Register.Extends.refl r
  | cons call calls ih =>
    obtain ⟨provider, c⟩ := call
    cases hfatal : c.fatal? limit mode with
    | some failure =>
      rw [settle_cons_fatal hfatal]
      exact Register.Extends.refl r
    | none =>
      rw [settle_cons hfatal]
      exact (Register.extends_merge r _ _).trans (ih _)

end settle

end Clearance
