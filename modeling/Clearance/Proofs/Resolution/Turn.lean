import Clearance.Proofs.Batches
import Clearance.Proofs.Resolution.Calls

/-!
# Turns of providers

A provider's turn makes the calls about what is pending, in a window, and hands their outcomes
over. This module shows that the window does not matter: a turn leads to what settling its calls
one by one leads to, whatever number of calls may be in flight (`settle_turn`).

The calls that a turn makes are about the batches of what is pending, or about the first few of
them if a failure ends the resolution (`started_turn`). A resolution is its turns, one after the
other, up to the first that such a failure ends (`visit_cons`).
-/

set_option autoImplicit false

namespace Clearance

universe u

variable {σ : Type u}

/-- The end of a provider's turn as the end of a resolution. -/
def Outcome.ofFailure? (provider : String) : Option Failure → Outcome
  | none => .complete
  | some failure => .unavailable provider failure

namespace Progress

variable {p : Provider σ} {limit : Duration}

/-- From `s` to `s'` exactly the calls about `batches` have been started. -/
structure Started (p : Provider σ) (batches : List (List ComponentId)) (s s' : Progress σ) :
    Prop where
  world : s'.world = p.worldAfter batches s.world
  asked : s'.asked = s.asked ++ batches

/-- No call is started where neither the world nor the list of calls changes. -/
theorem Started.of_eq {s s' : Progress σ} (world : s'.world = s.world)
    (asked : s'.asked = s.asked) : Started p [] s s' :=
  ⟨world, by rw [asked, List.append_nil]⟩

/-- Calls that are started one after the other are started in that order. -/
theorem Started.trans {a b : List (List ComponentId)} {s t r : Progress σ}
    (hst : Started p a s t) (htr : Started p b t r) : Started p (a ++ b) s r where
  world := by rw [Provider.worldAfter_append, ← hst.world, htr.world]
  asked := by rw [htr.asked, hst.asked, List.append_assoc]

/-! ## The window -/

/-- The next of the waiting batches is asked about, and its call is the last in the window. -/
theorem start_cons (p : Provider σ) (limit : Duration) (flying : List Call)
    (batch : List ComponentId) (waiting : List (List ComponentId)) (s : Progress σ) :
    ∃ s', s.start p limit ⟨flying.map (·.within limit), batch :: waiting⟩ =
        (⟨(flying ++ [p.call batch s.world]).map (·.within limit), waiting⟩, s') ∧
      s'.register = s.register ∧ Started p [batch] s s' := by
  refine ⟨{ s with world := (p.query batch s.world).2, asked := s.asked ++ [batch] }.report
    (p.query batch s.world).1.opened, ?_, rfl, rfl, rfl⟩
  rw [List.map_append]
  rfl

/-- Filling a window starts the first of the waiting calls. -/
theorem fill_eq (p : Provider σ) (limit : Duration) (count : Nat) (flying : List Call)
    (waiting : List (List ComponentId)) (s : Progress σ) :
    ∃ s', s.fill p limit count ⟨flying.map (·.within limit), waiting⟩ =
        (⟨(flying ++ p.calls (waiting.take count) s.world).map (·.within limit),
          waiting.drop count⟩, s') ∧
      s'.register = s.register ∧ Started p (waiting.take count) s s' := by
  induction count generalizing flying waiting s with
  | zero => exact ⟨s, by simp [fill, Provider.calls], rfl, Started.of_eq rfl rfl⟩
  | succ count ih =>
    cases waiting with
    | nil =>
      -- Starting a call does nothing when none waits.
      have hfill := ih flying [] s
      rw [List.take_nil, List.drop_nil] at hfill ⊢
      exact hfill
    | cons batch waiting =>
      obtain ⟨t, hstart, hregister, hstarted⟩ := start_cons p limit flying batch waiting s
      obtain ⟨s', hfill, hregister', hstarted'⟩ :=
        ih (flying ++ [p.call batch s.world]) waiting t
      refine ⟨s', ?_, hregister'.trans hregister, hstarted.trans hstarted'⟩
      have hworld : t.world = (p.query batch s.world).2 := hstarted.world
      rw [fill, hstart]
      dsimp only
      rw [hfill, hworld, List.append_assoc]
      rfl

/-- Handing over a call hears it, or ends the resolution if its failure is fatal. -/
theorem handOver_within (p : Provider σ) (limit : Duration) (name : String) (mode : FailureMode)
    (c : Call) (s : Progress σ) :
    ∃ s', s.handOver name mode (c.within limit) = (s', c.fatal? limit mode) ∧
      s'.register = (if (c.fatal? limit mode).isSome then s.register
        else s.register.hear limit c) ∧ Started p [] s s' := by
  unfold handOver
  rw [Call.failure?_within]
  cases hfailure : c.failure? limit with
  | none =>
    rw [Call.fatal?_eq_none hfailure, Call.found_within hfailure]
    exact ⟨_, rfl, rfl, Started.of_eq rfl rfl⟩
  | some failure =>
    cases mode with
    | bestEffort =>
      refine ⟨_, rfl, ?_, Started.of_eq rfl rfl⟩
      exact (Register.hear_of_failure? hfailure s.register).symm
    | failFast =>
      have hfatal : c.fatal? limit .failFast = some failure := hfailure
      rw [hfatal]
      exact ⟨_, rfl, rfl, Started.of_eq rfl rfl⟩

/-- Draining a window settles the calls in flight and then the waiting ones.

The calls in flight are carried as they were made, `flying`; the window holds them cut off at the
limit. No call waits while none is in flight, so the loop cannot stop too early. -/
theorem drain_eq (p : Provider σ) (o : Options) (rounds : Nat) (flying : List Call)
    (waiting : List (List ComponentId)) (s : Progress σ)
    (enough : flying.length + waiting.length ≤ rounds) (busy : flying = [] → waiting = []) :
    ∃ s' failure? started,
      s.drain p o rounds ⟨flying.map (·.within o.timeout), waiting⟩ = (s', failure?) ∧
      settle o.timeout o.mode ((flying ++ p.calls waiting s.world).map (p.name, ·)) s.register =
        (.ofFailure? p.name failure?, s'.register) ∧
      started <+: waiting ∧ (failure? = none → started = waiting) ∧ Started p started s s' := by
  induction rounds generalizing flying waiting s with
  | zero =>
    have hflying : flying = [] := List.eq_nil_of_length_eq_zero (by omega)
    have hwaiting : waiting = [] := busy hflying
    subst hflying hwaiting
    exact ⟨s, none, [], rfl, rfl, List.prefix_rfl, fun _ => rfl, Started.of_eq rfl rfl⟩
  | succ rounds ih =>
    cases flying with
    | nil =>
      have hwaiting : waiting = [] := busy rfl
      subst hwaiting
      exact ⟨s, none, [], rfl, rfl, List.prefix_rfl, fun _ => rfl, Started.of_eq rfl rfl⟩
    | cons c flying =>
      obtain ⟨t, hhand, hregister, hstarted⟩ :=
        handOver_within p o.timeout p.name o.mode c s
      have hworld : t.world = s.world := hstarted.world
      rw [List.map_cons, drain]
      dsimp only
      rw [hhand]
      cases hfatal : c.fatal? o.timeout o.mode with
      | some failure =>
        rw [hfatal] at hregister
        refine ⟨t, some failure, [], rfl, ?_, List.nil_prefix, by simp, hstarted⟩
        rw [List.cons_append, List.map_cons, settle_cons_fatal hfatal, hregister]
        rfl
      | none =>
        rw [hfatal] at hregister
        have hheard : t.register = s.register.hear o.timeout c := hregister
        rw [List.cons_append, List.map_cons, settle_cons hfatal, ← hheard]
        cases waiting with
        | nil =>
          -- Nothing waits, so the next round has one call less in flight.
          obtain ⟨s', failure?, started, hdrain, hsettle, hprefix, hall, hstarted'⟩ :=
            ih flying [] t (by simp only [List.length_cons] at enough; omega) (fun _ => rfl)
          refine ⟨s', failure?, started, hdrain, hsettle, hprefix, hall, ?_⟩
          exact hstarted.trans hstarted'
        | cons batch waiting =>
          -- The next waiting call takes the place of the one handed over.
          obtain ⟨r, hstart, hregister', hstarted'⟩ :=
            start_cons p o.timeout flying batch waiting t
          obtain ⟨s', failure?, started, hdrain, hsettle, hprefix, hall, hstarted''⟩ :=
            ih (flying ++ [p.call batch t.world]) waiting r
              (by
                simp only [List.length_cons, List.length_append, List.length_nil] at enough ⊢
                omega)
              (by simp)
          have hworld' : r.world = (p.query batch t.world).2 := hstarted'.world
          refine ⟨s', failure?, batch :: started, ?_, ?_, ?_, ?_, ?_⟩
          · dsimp only
            rw [hstart]
            exact hdrain
          · rw [hregister', hworld', hworld, List.append_assoc] at hsettle
            exact hsettle
          · exact List.cons_prefix_cons.2 ⟨rfl, hprefix⟩
          · intro hnone
            rw [hall hnone]
          · exact (hstarted.trans hstarted').trans hstarted''

/-- Asking a provider settles its calls one by one, however many may be in flight. -/
theorem ask_eq (p : Provider σ) (o : Options) (busy : 0 < o.concurrency)
    (batches : List (List ComponentId)) (s : Progress σ) :
    ∃ s' failure? started, s.ask p o batches = (s', failure?) ∧
      settle o.timeout o.mode ((p.calls batches s.world).map (p.name, ·)) s.register =
        (.ofFailure? p.name failure?, s'.register) ∧
      started <+: batches ∧ (failure? = none → started = batches) ∧ Started p started s s' := by
  have hfill := fill_eq p o.timeout (min o.concurrency batches.length) [] batches s
  generalize hcount : min o.concurrency batches.length = count at hfill
  obtain ⟨t, hfill, hregister, hstarted⟩ := hfill
  have hbusy : p.calls (batches.take count) s.world = [] → batches.drop count = [] := by
    intro hnone
    have hlength := congrArg (List.length ∘ List.map (·.batch)) hnone
    simp only [Function.comp_apply, Provider.batch_calls, List.length_take, List.map_nil,
      List.length_nil] at hlength
    rw [List.drop_eq_nil_iff]
    omega
  have henough : (p.calls (batches.take count) s.world).length + (batches.drop count).length ≤
      batches.length := by
    have hlength : (p.calls (batches.take count) s.world).length = (batches.take count).length := by
      rw [← List.length_map (f := (·.batch)), Provider.batch_calls]
    rw [hlength, List.length_take, List.length_drop]
    omega
  -- The calls that fill the window have been started, and draining it starts the others.
  obtain ⟨s', failure?, started, hdrain, hsettle, hprefix, hall, hstarted'⟩ :=
    drain_eq p o batches.length (p.calls (batches.take count) s.world) (batches.drop count) t
      henough hbusy
  have hworld : t.world = p.worldAfter (batches.take count) s.world := hstarted.world
  rw [hworld, hregister, ← Provider.calls_append, List.take_append_drop] at hsettle
  refine ⟨s', failure?, batches.take count ++ started, ?_, hsettle, ?_, ?_, ?_⟩
  · unfold ask
    rw [hcount]
    simp only [List.map_nil, List.nil_append] at hfill
    rw [hfill]
    exact hdrain
  · obtain ⟨rest, hrest⟩ := hprefix
    exact ⟨rest, by rw [List.append_assoc, hrest, List.take_append_drop]⟩
  · intro hnone
    rw [hall hnone, List.take_append_drop]
  · exact hstarted.trans hstarted'

end Progress

/-! ## Turns -/

namespace Resolution

variable {o : Options} {size_pos : 0 < o.batchSize}

/-- What is left to ask about are the ids that are due. -/
theorem pending_eq_due (r : Register) (ids : List ComponentId) : pending r ids = r.due ids := by
  unfold pending Register.due
  apply List.filter_congr
  intro id _
  congr 1
  unfold Register.approves
  cases r.find? id.canonical with
  | none => rfl
  | some e =>
    rw [Option.map_some, Option.any_some, Bool.eq_iff_iff]
    simp [bne_iff_ne, Entry.status_eq_approved_iff]

/-- A provider's turn: nothing but a remark if nothing is pending, and else its calls. -/
def turn (o : Options) (size_pos : 0 < o.batchSize) (ids : List ComponentId) (p : Provider σ)
    (s : Progress σ) : Progress σ × Option Failure :=
  match pending s.register ids with
  | [] => ({ s with asked := [] }.report [.skipped p.name], none)
  | batch =>
    ({ s with asked := [] }.report [.asking p.name batch.length]).ask p o
      (Batches.chunks o.batchSize size_pos batch)

/-- What was asked in an earlier turn has no influence on the next ones. -/
theorem visit_forget (ids : List ComponentId) (providers : List (Provider σ)) (s : Progress σ)
    (asked : List (List ComponentId)) :
    visit o size_pos ids providers { s with asked } = visit o size_pos ids providers s := by
  induction providers generalizing s with
  | nil => rfl
  | cons p providers ih =>
    cases hpending : pending s.register ids with
    | nil =>
      have hskip := ih (s.report [.skipped p.name])
      simp only [visit, hpending]
      exact congrArg (fun rest : Resolution σ => { rest with asked := [] :: rest.asked }) hskip
    | cons id rest => simp only [visit, hpending]

/-- A resolution is the turns of its providers, up to the first that a failure ends. -/
theorem visit_cons (ids : List ComponentId) (p : Provider σ) (providers : List (Provider σ))
    (s : Progress σ) :
    visit o size_pos ids (p :: providers) s =
      match turn o size_pos ids p s with
      | (s', some failure) =>
        { outcome := .unavailable p.name failure
          register := s'.register
          asked := s'.asked :: providers.map fun _ => []
          log := s'.log
          world := s'.world }
      | (s', none) =>
        { visit o size_pos ids providers s' with
          asked := s'.asked :: (visit o size_pos ids providers s').asked } := by
  cases hpending : pending s.register ids with
  | nil =>
    have hskip : visit o size_pos ids providers
        ({ s with asked := [] }.report [.skipped p.name]) =
          visit o size_pos ids providers (s.report [.skipped p.name]) :=
      visit_forget ids providers (s.report [.skipped p.name]) []
    simp only [visit, turn, hpending, hskip]
    rfl
  | cons id rest =>
    obtain ⟨⟨s', failure?⟩, hturn⟩ : ∃ result, turn o size_pos ids p s = result := ⟨_, rfl⟩
    rw [hturn]
    simp only [turn, hpending] at hturn
    cases failure? with
    | some failure => simp only [visit, hpending, hturn]
    | none => simp only [visit, hpending, hturn]

/-- A turn leads to what settling its calls one by one leads to. -/
theorem turn_eq (size_pos : 0 < o.batchSize) (busy : 0 < o.concurrency) (ids : List ComponentId)
    (p : Provider σ) (s : Progress σ) :
    ∃ s' failure?, turn o size_pos ids p s = (s', failure?) ∧
      settle o.timeout o.mode
          ((p.calls (Batches.chunks o.batchSize size_pos (pending s.register ids)) s.world).map
            (p.name, ·)) s.register = (.ofFailure? p.name failure?, s'.register) ∧
      s'.asked <+: Batches.chunks o.batchSize size_pos (pending s.register ids) ∧
      (failure? = none →
        s'.asked = Batches.chunks o.batchSize size_pos (pending s.register ids)) ∧
      s'.world = p.worldAfter s'.asked s.world := by
  unfold turn
  split
  · next h =>
    rw [h, Batches.chunks_nil]
    exact ⟨_, none, rfl, rfl, List.prefix_rfl, fun _ => rfl, rfl⟩
  · obtain ⟨s', failure?, started, hask, hsettle, hprefix, hall, hstarted⟩ :=
      Progress.ask_eq p o busy (Batches.chunks o.batchSize size_pos (pending s.register ids))
        ({ s with asked := [] }.report [.asking p.name (pending s.register ids).length])
    have hasked : s'.asked = started := hstarted.asked
    refine ⟨s', failure?, hask, hsettle, ?_, ?_, ?_⟩
    · rw [hasked]
      exact hprefix
    · rw [hasked]
      exact hall
    · rw [hasked]
      exact hstarted.world

end Resolution

end Clearance
