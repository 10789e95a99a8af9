import Clearance.Proofs.Resolution.Turn
import Mathlib.Data.List.Induction

/-!
# The walk of a component

What a resolution finds about one component can be told without registers, windows or merging.
The component walks over the rounds of calls, one for each provider: while it is valid and none of
its observations approves it, the call whose batch holds it adds what it found about it, provided
that it succeeded (`walk`). The rounds themselves follow from the walks, because a provider is
asked about the components that are still due (`transcript`).

* A resolution settles the calls of its transcript, in both failure modes and whatever the number
  of calls in flight (`visit_eq_settle`).
* Where failures are not fatal, the entry of a component holds exactly its walk
  (`resolve_eq_walk`), and each observation of a walk comes from a call that succeeded and whose
  batch holds the component (`mem_walk`).
-/

set_option autoImplicit false

namespace Clearance

universe u

variable {σ : Type u}

/-- The calls of one provider's turn. -/
structure Round where
  provider : String
  calls : List Call

namespace Round

/-- The batches that the calls are about, in their order. -/
def batches (round : Round) : List (List ComponentId) := round.calls.map (·.batch)

/-- The calls, each with the name of the provider. -/
def labelled (round : Round) : List (String × Call) := round.calls.map (round.provider, ·)

/-- What a round answers about a component: what the call about the batch that holds it has found
about it, if that call succeeds. -/
def answers (limit : Duration) (id : ComponentId) (round : Round) : List Observation :=
  match round.calls.find? fun c => id.isIn c.batch with
  | none => []
  | some c => if c.succeeds limit then c.answer.found.filter (·.id.sameAs id) else []

end Round

/-- The observations of a component after rounds of calls, told for this component alone. -/
def walk (limit : Duration) (id : ComponentId) (rounds : List Round) : List Observation :=
  rounds.foldl
    (fun seen round =>
      if id.isValid && !seen.any (·.verdict == .approved) then seen ++ round.answers limit id
      else seen)
    []

/-- A component is due after rounds: it is valid, and not approved yet. -/
def isDue (limit : Duration) (rounds : List Round) (id : ComponentId) : Bool :=
  id.isValid && !(walk limit id rounds).any (·.verdict == .approved)

/-- The rounds of calls to providers, after earlier ones, where no failure is fatal. Each provider
is asked about what is due, in batches. -/
def transcript (o : Options) (size_pos : 0 < o.batchSize) (ids : List ComponentId) :
    List (Provider σ) → (earlier : List Round) → σ → List Round
  | [], _, _ => []
  | p :: providers, earlier, world =>
    let batches := Batches.chunks o.batchSize size_pos (ids.filter (isDue o.timeout earlier))
    let round : Round := ⟨p.name, p.calls batches world⟩
    round :: transcript o size_pos ids providers (earlier ++ [round]) (p.worldAfter batches world)

/-! ## Walks -/

section walk

variable {limit : Duration}

/-- One more round adds its answers, if the id is due then. -/
theorem walk_concat (limit : Duration) (id : ComponentId) (rounds : List Round) (round : Round) :
    walk limit id (rounds ++ [round]) =
      if isDue limit rounds id then walk limit id rounds ++ round.answers limit id
      else walk limit id rounds := by
  unfold walk isDue
  rw [List.foldl_append]
  rfl

/-- An observation of a walk was found by a call that succeeded, whose batch holds the component,
at a time when the component was valid and not approved. -/
theorem mem_walk {id : ComponentId} {rounds : List Round} {obs : Observation}
    (h : obs ∈ walk limit id rounds) :
    ∃ before round after c, rounds = before ++ round :: after ∧ c ∈ round.calls ∧
      id.isIn c.batch = true ∧ c.succeeds limit = true ∧ obs ∈ c.answer.found ∧
      obs.id.canonical = id.canonical ∧ id.isValid = true ∧
      ∀ other ∈ walk limit id before, other.verdict ≠ .approved := by
  -- On the last round: it is heard or not, as the walk through the earlier ones decides.
  induction rounds using List.reverseRecOn with
  | nil => simp [walk] at h
  | append_singleton rounds round ih =>
    have hearlier : obs ∈ walk limit id rounds →
        ∃ before r after c, rounds ++ [round] = before ++ r :: after ∧ c ∈ r.calls ∧
          id.isIn c.batch = true ∧ c.succeeds limit = true ∧ obs ∈ c.answer.found ∧
          obs.id.canonical = id.canonical ∧ id.isValid = true ∧
          ∀ other ∈ walk limit id before, other.verdict ≠ .approved := by
      intro hmem
      obtain ⟨before, r, after, c, hrounds, hcall⟩ := ih hmem
      exact ⟨before, r, after ++ [round], c, by rw [hrounds]; simp, hcall⟩
    rw [walk_concat] at h
    split at h
    · next hdue =>
      rcases List.mem_append.1 h with hold | hnew
      · exact hearlier hold
      · unfold Round.answers at hnew
        split at hnew
        · simp at hnew
        · next c hfind =>
          split at hnew
          · next hsucceeds =>
            obtain ⟨hfound, hsame⟩ := List.mem_filter.1 hnew
            simp only [isDue, Bool.and_eq_true, Bool.not_eq_true', List.any_eq_false] at hdue
            have hin : id.isIn c.batch = true := by
              simpa using List.find?_some hfind
            refine ⟨rounds, round, [], c, rfl, List.mem_of_find?_eq_some hfind, hin, hsucceeds,
              hfound, ComponentId.sameAs_iff.1 hsame, hdue.1, ?_⟩
            intro other hother
            simpa using hdue.2 other hother
          · simp at hnew
    · exact hearlier h

end walk

/-! ## Rounds and registers -/

section rounds

variable {limit : Duration}

/-- What a call delivers about an id is decided by whether its batch holds the id. -/
theorem Call.about_canonical (limit : Duration) (id : ComponentId) (c : Call) :
    c.about limit id.canonical =
      if id.isIn c.batch then (c.delivered limit).filter (·.id.sameAs id) else [] := by
  have hpred : (fun o : Observation => o.id.isIn c.batch && o.id.canonical == id.canonical) =
      fun o => id.isIn c.batch && o.id.sameAs id := by
    funext o
    by_cases h : o.id.canonical = id.canonical
    · simp [ComponentId.isIn_congr h, ComponentId.sameAs, h]
    · simp [ComponentId.sameAs, beq_eq_false_iff_ne.2 h]
  rw [Call.about, hpred]
  cases id.isIn c.batch <;> simp

/-- Where batches share no component, a round answers about an id with all that its calls deliver
about it. -/
theorem Round.flatMap_about {calls : List Call}
    (apart : (calls.flatMap (·.batch)).Pairwise fun a b => a.canonical ≠ b.canonical)
    (provider : String) (id : ComponentId) :
    calls.flatMap (·.about limit id.canonical) = answers limit id ⟨provider, calls⟩ := by
  induction calls with
  | nil => rfl
  | cons c calls ih =>
    rw [List.flatMap_cons] at apart
    obtain ⟨-, hcalls, hacross⟩ := List.pairwise_append.1 apart
    rw [List.flatMap_cons, Call.about_canonical]
    cases hc : id.isIn c.batch with
    | false =>
      have hfind : (c :: calls).find? (fun c => id.isIn c.batch) =
          calls.find? fun c => id.isIn c.batch := List.find?_cons_of_neg (by simp [hc])
      rw [ih hcalls]
      simp only [answers, hfind]
      rfl
    | true =>
      -- The later calls are about other components.
      have hrest : calls.flatMap (·.about limit id.canonical) = [] := by
        rw [List.flatMap_eq_nil_iff]
        intro other hother
        rw [Call.about_canonical, if_neg]
        intro hin
        obtain ⟨a, ha, haeq⟩ := ComponentId.isIn_iff.1 hc
        obtain ⟨b, hb, hbeq⟩ := ComponentId.isIn_iff.1 hin
        exact hacross a ha b (List.mem_flatMap.2 ⟨other, hother, hb⟩) (haeq.trans hbeq.symm)
      have hfind : (c :: calls).find? (fun c => id.isIn c.batch) = some c :=
        List.find?_cons_of_pos (by simp [hc])
      rw [hrest, List.append_nil, if_pos rfl]
      simp only [answers, hfind]
      unfold Call.delivered
      split <;> rfl

/-- The register holds the walk of each of the ids. -/
def Tracks (limit : Duration) (ids : List ComponentId) (r : Register) (rounds : List Round) :
    Prop :=
  ∀ id ∈ ids, r.find? id.canonical = some ⟨id, walk limit id rounds⟩

/-- What is left to ask about are the ids that are due after the rounds. -/
theorem Tracks.pending_eq {ids : List ComponentId} {r : Register} {rounds : List Round}
    (h : Tracks limit ids r rounds) :
    Resolution.pending r ids = ids.filter (isDue limit rounds) := by
  rw [Resolution.pending_eq_due]
  unfold Register.due
  apply List.filter_congr
  intro id hid
  rw [Register.approves, h id hid, isDue, Option.any_some]

/-- Hearing a round of calls about what is due takes each walk one round further. -/
theorem Tracks.hearAll {ids : List ComponentId}
    (distinct : ids.Pairwise fun a b => a.canonical ≠ b.canonical) {r : Register}
    {rounds : List Round} (h : Tracks limit ids r rounds) (provider : String) {calls : List Call}
    (asked : calls.flatMap (·.batch) = ids.filter (isDue limit rounds)) :
    Tracks limit ids (r.hearAll limit calls) (rounds ++ [⟨provider, calls⟩]) := by
  intro id hid
  have hapart : (calls.flatMap (·.batch)).Pairwise fun a b => a.canonical ≠ b.canonical := by
    rw [asked]
    exact distinct.filter _
  rw [Register.find?_hearAll, h id hid, Round.flatMap_about hapart provider, walk_concat]
  split
  · rfl
  · next hdue =>
    -- No batch holds a component that is not due.
    have hnone : Round.answers limit id ⟨provider, calls⟩ = [] := by
      have hfind : calls.find? (fun c => id.isIn c.batch) = none := by
        rw [List.find?_eq_none]
        intro c hc hin
        obtain ⟨other, hother, heq⟩ := ComponentId.isIn_iff.1 hin
        have hasked : other ∈ ids.filter (isDue limit rounds) := by
          rw [← asked]
          exact List.mem_flatMap.2 ⟨c, hc, hother⟩
        obtain ⟨hmem, hotherdue⟩ := List.mem_filter.1 hasked
        rw [ComponentId.eq_of_canonical_eq distinct hmem hid heq] at hotherdue
        exact hdue hotherdue
      simp only [Round.answers, hfind]
    rw [hnone]
    simp

/-- Before the first round every entry is empty. -/
theorem tracks_ofIds {ids : List ComponentId}
    (distinct : ids.Pairwise fun a b => a.canonical ≠ b.canonical) :
    Tracks limit ids (Register.ofIds ids) [] := by
  intro id hid
  rw [Register.find?_ofIds distinct, ComponentId.find?_of_mem distinct hid]
  rfl

end rounds

/-! ## Resolutions -/

/-- Without the name of the provider the labelled calls are the calls. -/
@[simp] theorem Round.map_snd_labelled (round : Round) :
    round.labelled.map (·.2) = round.calls := by
  rw [labelled, List.map_map]
  exact List.map_id _

/-- All calls of rounds, each with the name of its provider, in the order of their outcomes. -/
def allCalls (rounds : List Round) : List (String × Call) := rounds.flatMap Round.labelled

/-- A resolution settles the calls of its transcript, and asks about their batches unless a
failure ends it. -/
theorem visit_eq_settle {o : Options} (size_pos : 0 < o.batchSize) (busy : 0 < o.concurrency)
    {ids : List ComponentId} (distinct : ids.Pairwise fun a b => a.canonical ≠ b.canonical)
    (providers : List (Provider σ)) {s : Progress σ} {earlier : List Round}
    (tracks : Tracks o.timeout ids s.register earlier) :
    settle o.timeout o.mode (allCalls (transcript o size_pos ids providers earlier s.world))
        s.register =
      ((Resolution.visit o size_pos ids providers s).outcome,
        (Resolution.visit o size_pos ids providers s).register) ∧
    ((Resolution.visit o size_pos ids providers s).outcome = .complete →
      (Resolution.visit o size_pos ids providers s).asked =
        (transcript o size_pos ids providers earlier s.world).map Round.batches) := by
  induction providers generalizing s earlier with
  | nil => exact ⟨rfl, fun _ => rfl⟩
  | cons p providers ih =>
    obtain ⟨s', failure?, hturn, hsettle, -, hall, hworld⟩ :=
      Resolution.turn_eq size_pos busy ids p s
    rw [tracks.pending_eq] at hsettle hall
    generalize hbatches : Batches.chunks o.batchSize size_pos
      (ids.filter (isDue o.timeout earlier)) = batches at hsettle hall
    have htranscript : transcript o size_pos ids (p :: providers) earlier s.world =
        ⟨p.name, p.calls batches s.world⟩ ::
          transcript o size_pos ids providers (earlier ++ [⟨p.name, p.calls batches s.world⟩])
            (p.worldAfter batches s.world) := by
      rw [transcript, hbatches]
    have hcalls : allCalls (transcript o size_pos ids (p :: providers) earlier s.world) =
        (p.calls batches s.world).map (p.name, ·) ++
          allCalls (transcript o size_pos ids providers
            (earlier ++ [⟨p.name, p.calls batches s.world⟩]) (p.worldAfter batches s.world)) := by
      rw [htranscript]
      rfl
    rw [hcalls, settle_append, hsettle, Resolution.visit_cons, hturn]
    cases failure? with
    | some failure => exact ⟨rfl, fun h => by simp at h⟩
    | none =>
      -- Nothing was fatal, so all calls of the round were heard.
      have hheard : s'.register = s.register.hearAll o.timeout (p.calls batches s.world) := by
        have h := (settle_eq_complete_iff.1 hsettle).2
        rwa [List.map_map, show ((·.2) ∘ (p.name, ·) : Call → Call) = id from rfl,
          List.map_id] at h
      have hasked : (p.calls batches s.world).flatMap (·.batch) =
          ids.filter (isDue o.timeout earlier) := by
        rw [Provider.flatMap_batch_calls, ← hbatches, Batches.flatten_chunks]
      have htracks := tracks.hearAll distinct p.name hasked
      rw [← hheard] at htracks
      have hworld' : s'.world = p.worldAfter batches s.world := by rw [hworld, hall rfl]
      obtain ⟨hrest, hasked'⟩ := ih htracks
      rw [hworld'] at hrest hasked'
      refine ⟨hrest, fun hcomplete => ?_⟩
      rw [htranscript, List.map_cons, ← hasked' hcomplete]
      dsimp only
      rw [hall rfl, Round.batches, Provider.batch_calls]

/-- Hearing all calls of a transcript takes the walks to its end. -/
theorem Tracks.hear_transcript {o : Options} {size_pos : 0 < o.batchSize} {ids : List ComponentId}
    (distinct : ids.Pairwise fun a b => a.canonical ≠ b.canonical) (providers : List (Provider σ))
    {r : Register} {earlier : List Round} (tracks : Tracks o.timeout ids r earlier) (world : σ) :
    Tracks o.timeout ids
      (r.hearAll o.timeout
        ((allCalls (transcript o size_pos ids providers earlier world)).map (·.2)))
      (earlier ++ transcript o size_pos ids providers earlier world) := by
  induction providers generalizing r earlier world with
  | nil => simpa [transcript, allCalls] using tracks
  | cons p providers ih =>
    rw [transcript]
    generalize hbatches : Batches.chunks o.batchSize size_pos
      (ids.filter (isDue o.timeout earlier)) = batches
    have hasked : (p.calls batches world).flatMap (·.batch) =
        ids.filter (isDue o.timeout earlier) := by
      rw [Provider.flatMap_batch_calls, ← hbatches, Batches.flatten_chunks]
    have hrest := ih (tracks.hearAll distinct p.name hasked) (p.worldAfter batches world)
    rw [← List.append_cons] at hrest
    rw [allCalls, List.flatMap_cons, List.map_append, Round.map_snd_labelled,
      Register.hearAll_append]
    exact hrest

/-- A resolution visits the providers, with an empty entry for each id. -/
theorem resolve_eq_visit {o : Options} (accepted : o.refusal? = none)
    (providers : List (Provider σ)) (ids : List ComponentId) (world : σ) :
    resolve providers o ids world =
      .ok (Resolution.visit o (o.batchSize_pos accepted) (ComponentId.firstOccurrences ids)
        providers ⟨.ofIds (ComponentId.firstOccurrences ids), world, [], []⟩) := by
  unfold resolve
  split
  · next refusal h => simp [accepted] at h
  · rfl

/-- Options that are accepted let at least one call be under way. -/
theorem Options.concurrency_pos {o : Options} (h : o.refusal? = none) : 0 < o.concurrency := by
  unfold refusal? at h
  split at h
  · simp at h
  · split at h
    · simp at h
    · omega

/-- The rounds of a resolution in which no failure is fatal. -/
def roundsOf (o : Options) (accepted : o.refusal? = none) (providers : List (Provider σ))
    (ids : List ComponentId) (world : σ) : List Round :=
  transcript o (o.batchSize_pos accepted) (ComponentId.firstOccurrences ids) providers [] world

/-- A resolution settles all calls of its rounds, starting from empty entries. -/
theorem resolve_eq_settle {o : Options} (accepted : o.refusal? = none)
    (providers : List (Provider σ)) (ids : List ComponentId) (world : σ) :
    ∃ r, resolve providers o ids world = .ok r ∧
      settle o.timeout o.mode (allCalls (roundsOf o accepted providers ids world))
          (.ofIds (ComponentId.firstOccurrences ids)) = (r.outcome, r.register) ∧
      (r.outcome = .complete →
        r.asked = (roundsOf o accepted providers ids world).map Round.batches) := by
  have hdistinct := ComponentId.pairwise_firstOccurrences ids
  obtain ⟨hsettle, hasked⟩ :=
    visit_eq_settle (o.batchSize_pos accepted) (Options.concurrency_pos accepted)
      hdistinct providers (s := ⟨.ofIds (ComponentId.firstOccurrences ids), world, [], []⟩)
      (tracks_ofIds hdistinct)
  exact ⟨_, resolve_eq_visit accepted providers ids world, hsettle, hasked⟩

/-- Where no failure is fatal, a resolution is complete and holds an entry for each requested
component, under the first id for it, with exactly the walk of that id over the rounds of calls.
In particular each observation comes from a call that succeeded and that had asked about the
component, and no earlier provider had approved it. -/
theorem resolve_eq_walk (providers : List (Provider σ)) (o : Options) (ids : List ComponentId)
    (world : σ) (accepted : o.refusal? = none) (lenient : o.mode = .bestEffort) :
    ∃ r, resolve providers o ids world = .ok r ∧ r.outcome = .complete ∧
      r.asked = (roundsOf o accepted providers ids world).map Round.batches ∧
      (∀ key, r.register.find? key = (ids.find? (·.canonical == key)).map fun id =>
        ⟨id, walk o.timeout id (roundsOf o accepted providers ids world)⟩) ∧
      ∀ key e, r.register.find? key = some e → ∀ obs ∈ e.observations,
        ∃ before round after c,
          roundsOf o accepted providers ids world = before ++ round :: after ∧
          c ∈ round.calls ∧ e.id.isIn c.batch = true ∧ c.succeeds o.timeout = true ∧
          obs ∈ c.answer.found ∧ obs.id.canonical = key ∧ e.id.isValid = true ∧
          ∀ other ∈ walk o.timeout e.id before, other.verdict ≠ .approved := by
  obtain ⟨r, hresolve, hsettle, hasked⟩ := resolve_eq_settle accepted providers ids world
  have hdistinct := ComponentId.pairwise_firstOccurrences ids
  rw [lenient, settle_bestEffort] at hsettle
  obtain ⟨hcomplete, hregister⟩ := Prod.mk.inj hsettle
  have htracks : Tracks o.timeout (ComponentId.firstOccurrences ids) r.register
      (roundsOf o accepted providers ids world) := by
    rw [← hregister]
    exact Tracks.hear_transcript hdistinct providers (tracks_ofIds hdistinct) world
  have hfind : ∀ key, r.register.find? key = (ids.find? (·.canonical == key)).map fun id =>
      ⟨id, walk o.timeout id (roundsOf o accepted providers ids world)⟩ := by
    intro key
    rw [← ComponentId.find?_firstOccurrences]
    cases hid : (ComponentId.firstOccurrences ids).find? (·.canonical == key) with
    | none =>
      -- No entry is made for a component that was not requested.
      rw [← hregister, Register.find?_hearAll, Register.find?_ofIds hdistinct, hid]
      rfl
    | some id =>
      have hkey : id.canonical = key := by
        simpa using List.find?_some hid
      rw [← hkey, htracks id (List.mem_of_find?_eq_some hid)]
      rfl
  refine ⟨r, hresolve, hcomplete.symm, hasked hcomplete.symm, hfind, ?_⟩
  intro key e he obs hobs
  rw [hfind key, Option.map_eq_some_iff] at he
  obtain ⟨id, hid, rfl⟩ := he
  have hkey : id.canonical = key := by
    simpa using List.find?_some hid
  rw [← hkey]
  exact mem_walk hobs

/-- A component that is listed twice beside text that is no id: a provider that answers too late
and one that fails leave nothing, and the walk ends at the approval by the fourth. -/
theorem resolve_eq_walk_of_five_providers :
    let id : ComponentId := .located ⟨"npm", "npmjs", none, "a", "1"⟩
    let statement (verdict : Verdict) (authority : String) : Observation :=
      ⟨id, "MIT", 90, verdict, authority, none⟩
    ∃ r, resolve
        [(.constant "late" { found := [statement .approved "late"], elapsed := .ofSeconds 61 } :
          Provider Unit),
         .constant "broken"
           { found := [statement .approved "broken"], failure? := some (.status 500) },
         .constant "first" { found := [statement .restricted "first"] },
         .constant "second" { found := [statement .approved "second"] },
         .constant "third" { found := [statement .restricted "third"] }]
        {} [id, .unrecognised "a@", id] () = .ok r ∧
      r.asked = [[[id]], [[id]], [[id]], [[id]], []] ∧
      r.register.find? "npm/npmjs/-/a/1" =
        some ⟨id, [statement .restricted "first", statement .approved "second"]⟩ ∧
      r.register.find? "a@" = some ⟨.unrecognised "a@", []⟩ := by
  intro id statement
  obtain ⟨r, hresolve, -, hasked, hfind, -⟩ := resolve_eq_walk
    [(.constant "late" { found := [statement .approved "late"], elapsed := .ofSeconds 61 } :
      Provider Unit),
     .constant "broken" { found := [statement .approved "broken"], failure? := some (.status 500) },
     .constant "first" { found := [statement .restricted "first"] },
     .constant "second" { found := [statement .approved "second"] },
     .constant "third" { found := [statement .restricted "third"] }]
    {} [id, .unrecognised "a@", id] () (by decide) rfl
  refine ⟨r, hresolve, ?_, ?_, ?_⟩
  · rw [hasked]
    decide +kernel
  · rw [hfind]
    decide +kernel
  · rw [hfind]
    decide +kernel

end Clearance
