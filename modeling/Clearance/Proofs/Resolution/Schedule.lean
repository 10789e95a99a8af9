import Clearance.Proofs.Resolution.Walk
import Mathlib

/-!
# Schedules

The program lets several calls to a provider be in flight, and nothing fixes the order in which
they finish. A schedule is any order of the steps that this leaves open: start the next batch while
there is room in the window, let any running call of the window finish, hand over the outcome of
the oldest call once it has finished. Batches are started in their order, so what a call comes to
is decided by the provider, the batch and its place in that order.

The result does not depend on the schedule. What carries this is `Stage.result`: the result that
the calls in the window and the calls still waiting lead to if they are settled one by one. No step
changes it (`result_of_step`), and at the end it is the result of the schedule.

* `schedule_eq_sequential`: every schedule with `n` calls in flight ends in the result of the run
  that makes its calls one at a time.
* `wellFounded_step` and `exists_step`: every schedule comes to an end, and none gets stuck before.
-/

set_option autoImplicit false

namespace Clearance

universe u

variable {σ : Type u}

open Relation (ReflTransGen)

/-! ## Steps -/

/-- A call in the window of a schedule. -/
structure Slot where
  batch : List ComponentId
  /-- What the call comes to if it is waited for; fixed when it starts. -/
  answer : Answer
  /-- What the call has come to, once it has finished. -/
  outcome? : Option Answer

/-- The batch loop of one provider. -/
structure Desk (σ : Type u) where
  /-- All batches of the turn. -/
  batches : List (List ComponentId)
  /-- The batches that are not started yet. -/
  waiting : List (List ComponentId)
  /-- The calls that are started but not handed over, the oldest first. -/
  window : List Slot
  /-- The batches whose outcomes are handed over, in the order in which that was done. -/
  handedOver : List (List ComponentId)
  register : Register
  world : σ

/-- How far a scheduled resolution has come. -/
inductive Stage (σ : Type u) where
  /-- No call is in flight, and these providers are still to be asked. -/
  | idle (providers : List (Provider σ)) (register : Register) (world : σ)
  /-- A provider is being asked, and others come after it. -/
  | asking (p : Provider σ) (later : List (Provider σ)) (desk : Desk σ)
  | ended (outcome : Outcome) (register : Register)

/-- The steps of schedules. -/
inductive Step (o : Options) (size_pos : 0 < o.batchSize) (ids : List ComponentId) :
    Stage σ → Stage σ → Prop where
  /-- The next provider is asked about what is pending now. -/
  | turn (p : Provider σ) (later : List (Provider σ)) (r : Register) (world : σ) :
    Step o size_pos ids (.idle (p :: later) r world)
      (.asking p later
        { batches := Batches.chunks o.batchSize size_pos (Resolution.pending r ids)
          waiting := Batches.chunks o.batchSize size_pos (Resolution.pending r ids)
          window := []
          handedOver := []
          register := r
          world })
  /-- The next batch is started, where the window has room. -/
  | start {p : Provider σ} {later : List (Provider σ)} {d : Desk σ} {batch : List ComponentId}
    {waiting : List (List ComponentId)} (next : d.waiting = batch :: waiting)
    (room : d.window.length < o.concurrency) :
    Step o size_pos ids (.asking p later d)
      (.asking p later
        { d with
          waiting
          window := d.window ++ [⟨batch, (p.query batch d.world).1, none⟩]
          world := (p.query batch d.world).2 })
  /-- Any running call finishes, with what it comes to within the limit from its own start. -/
  | finish {p : Provider σ} {later : List (Provider σ)} {d : Desk σ} {older newer : List Slot}
    {slot : Slot} (inFlight : d.window = older ++ slot :: newer) (running : slot.outcome? = none) :
    Step o size_pos ids (.asking p later d)
      (.asking p later
        { d with
          window :=
            older ++ { slot with outcome? := some (slot.answer.within o.timeout) } :: newer })
  /-- The oldest call has succeeded, and its observations are merged. -/
  | merge {p : Provider σ} {later : List (Provider σ)} {d : Desk σ} {newer : List Slot}
    {slot : Slot} {outcome : Answer} (oldest : d.window = slot :: newer)
    (finished : slot.outcome? = some outcome) (succeeded : outcome.failure? = none) :
    Step o size_pos ids (.asking p later d)
      (.asking p later
        { d with
          window := newer
          handedOver := d.handedOver ++ [slot.batch]
          register := d.register.merge slot.batch outcome.found })
  /-- The oldest call has failed, and the resolution goes on without it. -/
  | warn {p : Provider σ} {later : List (Provider σ)} {d : Desk σ} {newer : List Slot}
    {slot : Slot} {outcome : Answer} {failure : Failure} (oldest : d.window = slot :: newer)
    (finished : slot.outcome? = some outcome) (failed : outcome.failure? = some failure)
    (lenient : o.mode = .bestEffort) :
    Step o size_pos ids (.asking p later d)
      (.asking p later { d with window := newer, handedOver := d.handedOver ++ [slot.batch] })
  /-- The oldest call has failed, which ends the resolution. -/
  | abort {p : Provider σ} {later : List (Provider σ)} {d : Desk σ} {newer : List Slot}
    {slot : Slot} {outcome : Answer} {failure : Failure} (oldest : d.window = slot :: newer)
    (finished : slot.outcome? = some outcome) (failed : outcome.failure? = some failure)
    (strict : o.mode = .failFast) :
    Step o size_pos ids (.asking p later d) (.ended (.unavailable p.name failure) d.register)
  /-- All outcomes of the provider are handed over. -/
  | leave {p : Provider σ} {later : List (Provider σ)} {d : Desk σ} (started : d.waiting = [])
    (drained : d.window = []) :
    Step o size_pos ids (.asking p later d) (.idle later d.register d.world)
  /-- All providers have been asked. -/
  | conclude (r : Register) (world : σ) :
    Step o size_pos ids (.idle [] r world) (.ended .complete r)

/-! ## The sequential course -/

/-- The result of a resolution that makes its calls one at a time, from a register on. -/
def course (o : Options) (size_pos : 0 < o.batchSize) (ids : List ComponentId) :
    List (Provider σ) → Register → σ → Outcome × Register
  | [], r, _ => (.complete, r)
  | p :: later, r, world =>
    let batches := Batches.chunks o.batchSize size_pos (Resolution.pending r ids)
    match settle o.timeout o.mode ((p.calls batches world).map (p.name, ·)) r with
    | (.complete, r') => course o size_pos ids later r' (p.worldAfter batches world)
    | stopped => stopped

/-- How many calls may be under way makes no difference to the sequential course. -/
theorem course_concurrency (o : Options) (size_pos : 0 < o.batchSize) (ids : List ComponentId)
    (n : Nat) (providers : List (Provider σ)) (r : Register) (world : σ) :
    course { o with concurrency := n } size_pos ids providers r world =
      course o size_pos ids providers r world := by
  induction providers generalizing r world with
  | nil => rfl
  | cons p later ih => simp only [course, ih]

/-- The providers are visited with the result of the sequential course. -/
theorem visit_eq_course {o : Options} (size_pos : 0 < o.batchSize) (busy : 0 < o.concurrency)
    (ids : List ComponentId) (providers : List (Provider σ)) (s : Progress σ) :
    ((Resolution.visit o size_pos ids providers s).outcome,
        (Resolution.visit o size_pos ids providers s).register) =
      course o size_pos ids providers s.register s.world := by
  induction providers generalizing s with
  | nil => rfl
  | cons p later ih =>
    obtain ⟨s', failure?, hturn, hsettle, -, hall, hworld⟩ :=
      Resolution.turn_eq size_pos busy ids p s
    rw [Resolution.visit_cons, hturn, course, hsettle]
    cases failure? with
    | some failure => rfl
    | none =>
      have hrest := ih s'
      rw [hworld, hall rfl] at hrest
      exact hrest

/-! ## The result that a stage leads to -/

/-- The call that the slot holds. -/
def Slot.call (slot : Slot) : Call := ⟨slot.batch, slot.answer⟩

/-- The result of a stage, if everything from there on is settled one by one. -/
def Stage.result (o : Options) (size_pos : 0 < o.batchSize) (ids : List ComponentId) :
    Stage σ → Outcome × Register
  | .idle providers r world => course o size_pos ids providers r world
  | .asking p later d =>
    match settle o.timeout o.mode
        ((d.window.map Slot.call ++ p.calls d.waiting d.world).map (p.name, ·)) d.register with
    | (.complete, r) => course o size_pos ids later r (p.worldAfter d.waiting d.world)
    | stopped => stopped
  | .ended outcome r => (outcome, r)

/-- What holds of a desk at all times: the window is not too full, outcomes are handed over in the
order of the batches, and a finished call has come to what it comes to within the limit. -/
structure Desk.Sound (o : Options) (d : Desk σ) : Prop where
  room : d.window.length ≤ o.concurrency
  order : d.handedOver ++ d.window.map (·.batch) ++ d.waiting = d.batches
  settled : ∀ slot ∈ d.window, ∀ outcome, slot.outcome? = some outcome →
    outcome = slot.answer.within o.timeout

/-- The desk of a stage, if it has one, is sound. -/
def Stage.Sound (o : Options) (s : Stage σ) : Prop :=
  ∀ p later d, s = .asking p later d → d.Sound o

section step

variable {o : Options} {size_pos : 0 < o.batchSize} {ids : List ComponentId}

/-- Handing over the oldest call keeps a desk sound. -/
theorem Desk.Sound.handOver {d : Desk σ} (h : d.Sound o) {slot : Slot} {newer : List Slot}
    (oldest : d.window = slot :: newer) (register : Register) :
    ({ d with
        window := newer
        handedOver := d.handedOver ++ [slot.batch]
        register } : Desk σ).Sound o := by
  refine ⟨?_, ?_, ?_⟩
  · have hroom := h.room
    rw [oldest, List.length_cons] at hroom
    exact Nat.le_of_succ_le hroom
  · rw [← h.order, oldest]
    simp
  · intro other hother
    exact h.settled other (by rw [oldest]; exact List.mem_cons_of_mem _ hother)

/-- The failure that is handed over is the one of the call. -/
theorem Desk.Sound.failure?_oldest {d : Desk σ} (h : d.Sound o) {slot : Slot} {newer : List Slot}
    (oldest : d.window = slot :: newer) {outcome : Answer}
    (finished : slot.outcome? = some outcome) :
    slot.call.failure? o.timeout = outcome.failure? := by
  rw [h.settled slot (by rw [oldest]; exact List.mem_cons_self) outcome finished]
  exact (Call.failure?_within o.timeout slot.call).symm

/-- What is merged of a call that succeeds is what it delivers. -/
theorem Desk.Sound.found_oldest {d : Desk σ} (h : d.Sound o) {slot : Slot} {newer : List Slot}
    (oldest : d.window = slot :: newer) {outcome : Answer}
    (finished : slot.outcome? = some outcome) (succeeded : outcome.failure? = none) :
    outcome.found = slot.call.delivered o.timeout := by
  have hfailure : slot.call.failure? o.timeout = none :=
    (h.failure?_oldest oldest finished).trans succeeded
  rw [h.settled slot (by rw [oldest]; exact List.mem_cons_self) outcome finished]
  exact Call.found_within hfailure

/-- Steps keep desks sound. -/
theorem sound_of_step {s t : Stage σ} (step : Step o size_pos ids s t) (sound : s.Sound o) :
    t.Sound o := by
  intro p' later' d' ht
  cases step with
  | turn p later r world =>
    cases ht
    exact ⟨Nat.zero_le _, rfl, by simp⟩
  | @start p later d batch waiting next room =>
    cases ht
    have hd := sound _ _ d rfl
    refine ⟨?_, ?_, ?_⟩
    · rw [List.length_append, List.length_singleton]
      exact room
    · rw [← hd.order, next]
      simp
    · intro slot hslot outcome houtcome
      rcases List.mem_append.1 hslot with hold | hnew
      · exact hd.settled slot hold outcome houtcome
      · -- A call that has just started has not finished.
        rw [List.mem_singleton.1 hnew] at houtcome
        simp at houtcome
  | @finish p later d older newer slot inFlight running =>
    cases ht
    have hd := sound _ _ d rfl
    refine ⟨?_, ?_, ?_⟩
    · have hroom := hd.room
      rw [inFlight] at hroom
      simpa using hroom
    · rw [← hd.order, inFlight]
      simp
    · intro other hother outcome houtcome
      rcases List.mem_append.1 hother with hold | hrest
      · exact hd.settled other (by rw [inFlight]; exact List.mem_append_left _ hold) outcome
          houtcome
      · rcases List.mem_cons.1 hrest with rfl | hnew
        · exact (Option.some.inj houtcome).symm
        · exact hd.settled other
            (by rw [inFlight]; exact List.mem_append_right _ (List.mem_cons_of_mem _ hnew))
            outcome houtcome
  | @merge p later d newer slot outcome oldest finished succeeded =>
    cases ht
    exact (sound _ _ d rfl).handOver oldest _
  | @warn p later d newer slot outcome failure oldest finished failed lenient =>
    cases ht
    exact (sound _ _ d rfl).handOver oldest _
  | abort oldest finished failed strict => cases ht
  | leave started drained => cases ht
  | conclude r world => cases ht

/-- No step changes the result that a stage leads to. -/
theorem result_of_step {s t : Stage σ} (step : Step o size_pos ids s t) (sound : s.Sound o) :
    t.result o size_pos ids = s.result o size_pos ids := by
  cases step with
  | turn p later r world => rfl
  | @start p later d batch waiting next room =>
    -- The call moves from the waiting ones to the end of the window.
    have hcalls : (d.window ++ [(⟨batch, (p.query batch d.world).1, none⟩ : Slot)]).map Slot.call ++
        p.calls waiting (p.query batch d.world).2 =
          d.window.map Slot.call ++ p.calls d.waiting d.world := by
      rw [next, List.map_append, List.append_assoc]
      rfl
    simp only [Stage.result, hcalls]
    rw [next]
    rfl
  | @finish p later d older newer slot inFlight running =>
    -- What the call comes to was fixed when it started.
    have hcalls : (older ++ { slot with
        outcome? := some (slot.answer.within o.timeout) } :: newer).map Slot.call =
          d.window.map Slot.call := by
      rw [inFlight, List.map_append, List.map_append]
      rfl
    simp only [Stage.result, hcalls]
  | @merge p later d newer slot outcome oldest finished succeeded =>
    -- The oldest call is the first one that is left to be settled.
    have hdesk := sound p later d rfl
    have hfailure := (hdesk.failure?_oldest oldest finished).trans succeeded
    have hfound := hdesk.found_oldest oldest finished succeeded
    have hfatal : slot.call.fatal? o.timeout o.mode = none := Call.fatal?_eq_none hfailure
    simp only [Stage.result]
    rw [oldest, List.map_cons, List.cons_append, List.map_cons, settle_cons hfatal, hfound]
    rfl
  | @warn p later d newer slot outcome failure oldest finished failed lenient =>
    have hfailure := ((sound p later d rfl).failure?_oldest oldest finished).trans failed
    have hfatal : slot.call.fatal? o.timeout o.mode = none := by
      rw [lenient]
      rfl
    simp only [Stage.result]
    rw [oldest, List.map_cons, List.cons_append, List.map_cons, settle_cons hfatal,
      Register.hear_of_failure? hfailure]
  | @abort p later d newer slot outcome failure oldest finished failed strict =>
    have hfailure := ((sound p later d rfl).failure?_oldest oldest finished).trans failed
    have hfatal : slot.call.fatal? o.timeout o.mode = some failure := by
      rw [strict]
      exact hfailure
    simp only [Stage.result]
    rw [oldest, List.map_cons, List.cons_append, List.map_cons, settle_cons_fatal hfatal]
  | @leave p later d started drained =>
    simp only [Stage.result]
    rw [started, drained]
    rfl
  | conclude r world => rfl

/-- What holds of the stages that a schedule reaches from an idle one. -/
theorem sound_and_result_of_run {providers : List (Provider σ)} {r : Register} {world : σ}
    {t : Stage σ} (run : ReflTransGen (Step o size_pos ids) (.idle providers r world) t) :
    t.Sound o ∧ t.result o size_pos ids = course o size_pos ids providers r world := by
  induction run with
  | refl =>
    refine ⟨?_, rfl⟩
    intro p later d h
    cases h
  | tail _ step ih =>
    obtain ⟨hsound, hresult⟩ := ih
    exact ⟨sound_of_step step hsound, (result_of_step step hsound).trans hresult⟩

/-! ## Schedules come to an end -/

/-- The steps that a call in the window still takes. -/
def Slot.work (slot : Slot) : Nat := if slot.outcome?.isNone then 2 else 1

/-- What every step makes smaller: the turns that are left, and then the work of the turn. -/
def Stage.work : Stage σ → Nat × Nat
  | .idle providers _ _ => (2 * providers.length + 1, 0)
  | .asking _ later d =>
    (2 * later.length + 2, 3 * d.waiting.length + (d.window.map Slot.work).sum)
  | .ended _ _ => (0, 0)

/-- Every step leaves less work. -/
theorem work_of_step {s t : Stage σ} (step : Step o size_pos ids s t) :
    Prod.Lex (· < ·) (· < ·) t.work s.work := by
  -- Within a turn the work of one batch goes down: it waits, runs, has finished, is handed over.
  cases step with
  | turn p later r world =>
    refine Prod.Lex.left _ _ ?_
    rw [List.length_cons]
    omega
  | @start p later d batch waiting next room =>
    refine Prod.Lex.right _ ?_
    rw [next, List.length_cons, List.map_append, List.sum_append]
    simp only [List.map_cons, List.map_nil, List.sum_cons, List.sum_nil, Slot.work,
      Option.isNone_none, if_true]
    omega
  | @finish p later d older newer slot inFlight running =>
    refine Prod.Lex.right _ ?_
    rw [inFlight]
    simp only [List.map_append, List.sum_append, List.map_cons, List.sum_cons, Slot.work, running,
      Option.isNone_none, if_true, Option.isNone_some, Bool.false_eq_true, if_false]
    omega
  | @merge p later d newer slot outcome oldest finished succeeded =>
    refine Prod.Lex.right _ ?_
    rw [oldest, List.map_cons, List.sum_cons, Slot.work, finished]
    simp only [Option.isNone_some, Bool.false_eq_true, if_false]
    omega
  | @warn p later d newer slot outcome failure oldest finished failed lenient =>
    refine Prod.Lex.right _ ?_
    rw [oldest, List.map_cons, List.sum_cons, Slot.work, finished]
    simp only [Option.isNone_some, Bool.false_eq_true, if_false]
    omega
  | abort oldest finished failed strict => exact Prod.Lex.left _ _ (Nat.succ_pos _)
  | leave started drained => exact Prod.Lex.left _ _ (Nat.lt_succ_self _)
  | conclude r world => exact Prod.Lex.left _ _ (Nat.succ_pos _)

/-- No schedule goes on for ever. -/
theorem wellFounded_step (o : Options) (size_pos : 0 < o.batchSize) (ids : List ComponentId) :
    WellFounded fun t s : Stage σ => Step o size_pos ids s t :=
  Subrelation.wf (fun step => work_of_step step)
    (InvImage.wf Stage.work (WellFounded.prod_lex Nat.lt_wfRel.wf Nat.lt_wfRel.wf))

/-- A schedule can go on until it has ended. -/
theorem exists_step (size_pos : 0 < o.batchSize) (ids : List ComponentId)
    (busy : 0 < o.concurrency) (s : Stage σ) :
    (∃ outcome r, s = .ended outcome r) ∨ ∃ t, Step o size_pos ids s t := by
  cases s with
  | ended outcome r => exact Or.inl ⟨outcome, r, rfl⟩
  | idle providers r world =>
    cases providers with
    | nil => exact Or.inr ⟨_, .conclude r world⟩
    | cons p later => exact Or.inr ⟨_, .turn p later r world⟩
  | asking p later d =>
    refine Or.inr ?_
    cases hwindow : d.window with
    | nil =>
      cases hwaiting : d.waiting with
      | nil => exact ⟨_, .leave hwaiting hwindow⟩
      | cons batch waiting => exact ⟨_, .start hwaiting (by rw [hwindow]; exact busy)⟩
    | cons slot newer =>
      cases houtcome : slot.outcome? with
      | none =>
        have hflying : d.window = [] ++ slot :: newer := hwindow
        exact ⟨_, .finish hflying houtcome⟩
      | some outcome =>
        cases hfailure : outcome.failure? with
        | none => exact ⟨_, .merge hwindow houtcome hfailure⟩
        | some failure =>
          cases hmode : o.mode with
          | bestEffort => exact ⟨_, .warn hwindow houtcome hfailure hmode⟩
          | failFast => exact ⟨_, .abort hwindow houtcome hfailure hmode⟩

/-- From every stage some schedule leads to an end. -/
theorem exists_end (busy : 0 < o.concurrency) (s : Stage σ) :
    ∃ outcome r, ReflTransGen (Step o size_pos ids) s (.ended outcome r) := by
  induction s using (wellFounded_step o size_pos ids).induction with
  | _ s ih =>
    rcases exists_step size_pos ids busy s with ⟨outcome, r, rfl⟩ | ⟨t, step⟩
    · exact ⟨outcome, r, ReflTransGen.refl⟩
    · obtain ⟨outcome, r, rest⟩ := ih t step
      exact ⟨outcome, r, ReflTransGen.head step rest⟩

end step

/-- Options stay accepted when calls are to be made one at a time. -/
theorem Options.refusal?_sequential {o : Options} (h : o.refusal? = none) :
    ({ o with concurrency := 1 } : Options).refusal? = none := by
  have hconcurrency := concurrency_pos h
  unfold refusal? at h ⊢
  simpa [hconcurrency.ne'] using h

/-- However calls are scheduled, a resolution ends as the one that makes its calls one at a time:
with the same outcome and the same register. So does the resolution with the window of the options.
On the way no more calls are in flight than the options allow, outcomes are handed over in the
order of the batches, and every schedule can be carried on to its end. -/
theorem schedule_eq_sequential (providers : List (Provider σ)) (o : Options)
    (ids : List ComponentId) (world : σ) (accepted : o.refusal? = none) :
    ∃ r, resolve providers { o with concurrency := 1 } ids world = .ok r ∧
      (∃ r', resolve providers o ids world = .ok r' ∧ r'.outcome = r.outcome ∧
        r'.register = r.register) ∧
      ∀ stage, ReflTransGen (Step o (o.batchSize_pos accepted) (ComponentId.firstOccurrences ids))
          (.idle providers (.ofIds (ComponentId.firstOccurrences ids)) world) stage →
        (∀ outcome register, stage = .ended outcome register →
          outcome = r.outcome ∧ register = r.register) ∧
        (∀ p later desk, stage = .asking p later desk →
          desk.window.length ≤ o.concurrency ∧
          desk.handedOver ++ desk.window.map (·.batch) ++ desk.waiting = desk.batches) ∧
        ReflTransGen (Step o (o.batchSize_pos accepted) (ComponentId.firstOccurrences ids)) stage
          (.ended r.outcome r.register) := by
  have hbusy := Options.concurrency_pos accepted
  have hsequential := Options.refusal?_sequential accepted
  have hcourse := visit_eq_course (o.batchSize_pos accepted) hbusy
    (ComponentId.firstOccurrences ids) providers
    ⟨.ofIds (ComponentId.firstOccurrences ids), world, [], []⟩
  have hcourse' := visit_eq_course (Options.batchSize_pos hsequential)
    (Options.concurrency_pos hsequential) (ComponentId.firstOccurrences ids) providers
    ⟨.ofIds (ComponentId.firstOccurrences ids), world, [], []⟩
  rw [course_concurrency] at hcourse'
  have hsame := hcourse.trans hcourse'.symm
  refine ⟨_, resolve_eq_visit hsequential providers ids world, ⟨_,
    resolve_eq_visit accepted providers ids world, congrArg Prod.fst hsame,
    congrArg Prod.snd hsame⟩, ?_⟩
  intro stage run
  obtain ⟨hsound, hresult⟩ := sound_and_result_of_run run
  rw [← hcourse'] at hresult
  refine ⟨?_, ?_, ?_⟩
  · intro outcome register hended
    rw [hended] at hresult
    exact ⟨congrArg Prod.fst hresult, congrArg Prod.snd hresult⟩
  · intro p later desk hasking
    have hdesk := hsound p later desk hasking
    exact ⟨hdesk.room, hdesk.order⟩
  · -- Some run leads from the stage to an end, and the result there is the one of every stage.
    obtain ⟨outcome, register, rest⟩ := exists_end hbusy stage
    have hend := (sound_and_result_of_run (run.trans rest)).2
    rw [← hcourse'] at hend
    obtain ⟨houtcome, hregister⟩ := Prod.mk.inj hend
    rw [houtcome, hregister] at rest
    exact rest

/-- Two calls are in flight. The second one comes back first, with a failure, and waits there until
the first one is handed over. -/
theorem schedule_eq_sequential_of_overtaking :
    let a : ComponentId := .located ⟨"npm", "npmjs", none, "a", "1"⟩
    let b : ComponentId := .located ⟨"npm", "npmjs", none, "b", "1"⟩
    let p : Provider Nat := {
      name := "second call fails"
      query := fun _ earlier =>
        ({ found := [⟨a, "MIT", 90, .approved, "first", none⟩]
           failure? := if earlier = 1 then some (.status 500) else none }, earlier + 1) }
    let o : Options := { batchSize := 1, concurrency := 2, mode := .failFast }
    ∃ (h : 0 < o.batchSize) (desk : Desk Nat) (r : Register),
      ReflTransGen (Step o h [a, b]) (.idle [p] (.ofIds [a, b]) 0) (.asking p [] desk) ∧
      desk.window.map (·.outcome?.isSome) = [false, true] ∧
      ReflTransGen (Step o h [a, b]) (.asking p [] desk)
        (.ended (.unavailable "second call fails" (.status 500)) r) := by
  intro a b p o
  have accepted : o.refusal? = none := by decide
  have hbatches : ∀ h : 0 < 1,
      Batches.chunks 1 h (Resolution.pending (.ofIds [a, b]) [a, b]) = [[a], [b]] := by
    decide +kernel
  have run : ReflTransGen (Step o (o.batchSize_pos accepted) [a, b])
      (.idle [p] (.ofIds [a, b]) 0) _ :=
    (((ReflTransGen.refl.tail (.turn p [] _ 0)).tail
      (.start (hbatches (o.batchSize_pos accepted)) Nat.zero_lt_two)).tail
      (.start rfl Nat.one_lt_two)).tail (.finish rfl rfl)
  obtain ⟨r, hresolve, -, hschedule⟩ := schedule_eq_sequential [p] o [a, b] 0 accepted
  obtain ⟨-, -, rest⟩ := hschedule _ run
  have houtcome : r.outcome = .unavailable "second call fails" (.status 500) := by
    have h : (resolve [p] { o with concurrency := 1 } [a, b] 0).toOption.map (·.outcome) =
        some (.unavailable "second call fails" (.status 500)) := by
      decide +kernel
    rw [hresolve] at h
    exact Option.some.inj h
  rw [houtcome] at rest
  exact ⟨_, _, r.register, run, rfl, rest⟩

end Clearance
