import Clearance.Proofs.Resolution.Walk

/-!
# Failures that end a resolution

Two resolutions that differ only in what failures mean make the same calls, one after the other,
until the first of these calls that fails. There the one for which failures are fatal ends, with
the register that the other one has at this point and then goes on with. So its entries are those
of the other one, cut off before that call (`failFast_eq_truncated`).
-/

set_option autoImplicit false

namespace Clearance

universe u

variable {σ : Type u}

/-- Where not all calls succeed, there is a first one that fails. -/
theorem exists_first_failure (limit : Duration) (calls : List (String × Call)) :
    (∀ call ∈ calls, call.2.failure? limit = none) ∨
      ∃ before provider c after failure, calls = before ++ (provider, c) :: after ∧
        (∀ call ∈ before, call.2.failure? limit = none) ∧ c.failure? limit = some failure := by
  induction calls with
  | nil => exact Or.inl (by simp)
  | cons call calls ih =>
    obtain ⟨provider, c⟩ := call
    cases hfailure : c.failure? limit with
    | some failure => exact Or.inr ⟨[], provider, c, calls, failure, rfl, by simp, hfailure⟩
    | none =>
      rcases ih with hall | ⟨before, other, d, after, failure, hcalls, hbefore, hfails⟩
      · refine Or.inl ?_
        intro call hcall
        rcases List.mem_cons.1 hcall with rfl | hrest
        · exact hfailure
        · exact hall call hrest
      · refine Or.inr ⟨(provider, c) :: before, other, d, after, failure, ?_, ?_, hfails⟩
        · rw [hcalls, List.cons_append]
        · intro call hcall
          rcases List.mem_cons.1 hcall with rfl | hrest
          · exact hfailure
          · exact hbefore call hrest

/-- The calls do not depend on what failures mean. -/
theorem transcript_mode (o : Options) (size_pos : 0 < o.batchSize) (ids : List ComponentId)
    (mode : FailureMode) (providers : List (Provider σ)) (earlier : List Round) (world : σ) :
    transcript { o with mode } size_pos ids providers earlier world =
      transcript o size_pos ids providers earlier world := by
  induction providers generalizing earlier world with
  | nil => rfl
  | cons p providers ih => simp only [transcript, ih]

/-- A resolution in one of the two modes settles the same calls. -/
theorem resolve_mode_eq_settle {o : Options} (accepted : o.refusal? = none) (mode : FailureMode)
    (providers : List (Provider σ)) (ids : List ComponentId) (world : σ) :
    ∃ r, resolve providers { o with mode } ids world = .ok r ∧
      settle o.timeout mode (allCalls (roundsOf o accepted providers ids world))
          (.ofIds (ComponentId.firstOccurrences ids)) = (r.outcome, r.register) ∧
      (r.outcome = .complete →
        r.asked = (roundsOf o accepted providers ids world).map Round.batches) := by
  have haccepted : ({ o with mode } : Options).refusal? = none := accepted
  have hrounds : roundsOf { o with mode } haccepted providers ids world =
      roundsOf o accepted providers ids world :=
    transcript_mode o _ _ mode providers [] world
  rw [← hrounds]
  exact resolve_eq_settle haccepted providers ids world

/-- What calls leave in the entries of a resolution. -/
theorem find?_hearAll_ofIds (limit : Duration) (ids : List ComponentId)
    (calls : List (String × Call)) (key : String) :
    ((Register.ofIds (ComponentId.firstOccurrences ids)).hearAll limit
        (calls.map (·.2))).find? key =
      (ids.find? (·.canonical == key)).map fun id =>
        ⟨id, calls.flatMap (·.2.about limit key)⟩ := by
  rw [Register.find?_hearAll, Register.find?_ofIds (ComponentId.pairwise_firstOccurrences ids),
    ComponentId.find?_firstOccurrences, Option.map_map, List.flatMap_map]
  congr 1

/-- Where failures are fatal, a resolution ends as it does where they are not if no call fails.
Otherwise it names the first call that fails and holds the register of the other resolution from
just before that call: an entry for each requested component, with what the calls before have
delivered about it, which the other resolution only appends to. Where failures are not fatal, no
resolution ends so. -/
theorem failFast_eq_truncated (providers : List (Provider σ)) (o : Options)
    (ids : List ComponentId) (world : σ) (accepted : o.refusal? = none) :
    ∃ best fast, resolve providers { o with mode := .bestEffort } ids world = .ok best ∧
      resolve providers { o with mode := .failFast } ids world = .ok fast ∧
      best.outcome = .complete ∧
      best.asked = (roundsOf o accepted providers ids world).map Round.batches ∧
      (((∀ call ∈ allCalls (roundsOf o accepted providers ids world),
            call.2.succeeds o.timeout = true) ∧
          fast.outcome = .complete ∧ fast.register = best.register ∧ fast.asked = best.asked) ∨
        ∃ before provider c after failure,
          allCalls (roundsOf o accepted providers ids world) =
            before ++ (provider, c) :: after ∧
          (∀ call ∈ before, call.2.succeeds o.timeout = true) ∧
          c.failure? o.timeout = some failure ∧
          fast.outcome = .unavailable provider failure ∧
          fast.register = (Register.ofIds (ComponentId.firstOccurrences ids)).hearAll o.timeout
            (before.map (·.2)) ∧
          best.register =
            fast.register.hearAll o.timeout (((provider, c) :: after).map (·.2)) ∧
          ∀ key,
            fast.register.find? key = (ids.find? (·.canonical == key)).map (fun id =>
              ⟨id, before.flatMap (·.2.about o.timeout key)⟩) ∧
            ∃ more, best.register.find? key = (fast.register.find? key).map (·.addAll more)) := by
  obtain ⟨best, hbest, hsettleBest, haskedBest⟩ :=
    resolve_mode_eq_settle accepted .bestEffort providers ids world
  obtain ⟨fast, hfast, hsettleFast, haskedFast⟩ :=
    resolve_mode_eq_settle accepted .failFast providers ids world
  rw [settle_bestEffort] at hsettleBest
  obtain ⟨hcomplete, hregister⟩ := Prod.mk.inj hsettleBest
  refine ⟨best, fast, hbest, hfast, hcomplete.symm, haskedBest hcomplete.symm, ?_⟩
  rcases exists_first_failure o.timeout (allCalls (roundsOf o accepted providers ids world)) with
    hall | ⟨before, provider, c, after, failure, hcalls, hbefore, hfails⟩
  · refine Or.inl ⟨fun call hcall => Call.failure?_eq_none_iff.1 (hall call hcall), ?_⟩
    rw [settle_eq_complete_iff.2 ⟨hall, rfl⟩] at hsettleFast
    obtain ⟨hfastComplete, hfastRegister⟩ := Prod.mk.inj hsettleFast
    refine ⟨hfastComplete.symm, hfastRegister.symm.trans hregister, ?_⟩
    rw [haskedFast hfastComplete.symm, haskedBest hcomplete.symm]
  · -- Up to the failing call the two registers are the same one.
    refine Or.inr ⟨before, provider, c, after, failure, hcalls,
      fun call hcall => Call.failure?_eq_none_iff.1 (hbefore call hcall), hfails, ?_⟩
    have hharmless : ∀ call ∈ before, call.2.fatal? o.timeout .failFast = none := hbefore
    have hfatal : c.fatal? o.timeout .failFast = some failure := hfails
    rw [hcalls, settle_append_fatal hharmless hfatal] at hsettleFast
    obtain ⟨houtcome, hfastRegister⟩ := Prod.mk.inj hsettleFast
    have hgoesOn : best.register =
        fast.register.hearAll o.timeout (((provider, c) :: after).map (·.2)) := by
      rw [← hregister, ← hfastRegister, ← Register.hearAll_append, ← List.map_append, hcalls]
    refine ⟨houtcome.symm, hfastRegister.symm, hgoesOn, ?_⟩
    intro key
    refine ⟨?_, ?_⟩
    · rw [← hfastRegister]
      exact find?_hearAll_ofIds o.timeout ids before key
    · rw [hgoesOn]
      exact Register.extends_hearAll o.timeout fast.register _ key

/-- Of two providers the second one approves a component and then goes away. -/
theorem failFast_eq_truncated_of_lost_provider :
    let a : ComponentId := .located ⟨"npm", "npmjs", none, "a", "1"⟩
    let b : ComponentId := .located ⟨"npm", "npmjs", none, "b", "1"⟩
    let note (id : ComponentId) (verdict : Verdict) : Observation :=
      ⟨id, "MIT", 90, verdict, "", none⟩
    let providers : List (Provider Nat) := [
      .constant "first" { found := [note a .restricted, note b .restricted] },
      { name := "second"
        query := fun batch earlier =>
          ({ found := batch.map (note · .approved)
             failure? := if earlier = 1 then some .transport else none }, earlier + 1) },
      .constant "third" { found := [note b .restricted] }]
    let o : Options := { batchSize := 1 }
    ∃ best fast, resolve providers { o with mode := .bestEffort } [a, b] 0 = .ok best ∧
      resolve providers { o with mode := .failFast } [a, b] 0 = .ok fast ∧
      fast.outcome = .unavailable "second" .transport ∧
      fast.register.find? a.canonical = some ⟨a, [note a .restricted, note a .approved]⟩ ∧
      fast.register.find? b.canonical = some ⟨b, [note b .restricted]⟩ ∧
      ∃ more, best.register.find? b.canonical = some ⟨b, note b .restricted :: more⟩ := by
  intro a b note providers o
  have accepted : o.refusal? = none := by decide
  obtain ⟨best, fast, hbest, hfast, -, -, hends⟩ :=
    failFast_eq_truncated providers o [a, b] 0 accepted
  have hevaluated : (resolve providers { o with mode := .failFast } [a, b] 0).toOption.map
      (fun r => (r.outcome, r.register.find? a.canonical, r.register.find? b.canonical)) =
        some (.unavailable "second" .transport,
          some ⟨a, [note a .restricted, note a .approved]⟩, some ⟨b, [note b .restricted]⟩) := by
    decide +kernel
  rw [hfast] at hevaluated
  obtain ⟨houtcome, hregister⟩ := Prod.mk.inj (Option.some.inj hevaluated)
  obtain ⟨ha, hb⟩ := Prod.mk.inj hregister
  rcases hends with ⟨-, hcomplete, -⟩ | ⟨_, _, _, _, _, -, -, -, -, -, -, hentries⟩
  · rw [houtcome] at hcomplete
    cases hcomplete
  · obtain ⟨-, more, hmore⟩ := hentries b.canonical
    rw [hb] at hmore
    exact ⟨best, fast, hbest, hfast, houtcome, ha, hb, more, hmore⟩

end Clearance
