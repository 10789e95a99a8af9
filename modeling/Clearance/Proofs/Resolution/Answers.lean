import Clearance.Proofs.Entry
import Clearance.Proofs.Resolution.Walk

/-!
# Answers that depend on the component alone

A resolution does not ask about what is approved already, so that the order of its providers decides
which calls are made and which observations are kept. It does not decide the status of a component
where all calls succeed and every provider answers about each component of its batch in its own way,
whatever else the batch holds (`Healthy`). Then the entry of a component holds what the providers
say about it up to the first one that approves it (`heard`), and its status is the best that any of
them gives to it (`knownStatus`).
-/

set_option autoImplicit false

namespace Clearance

universe u

variable {σ : Type u}

/-! ## What providers say -/

/-- Ids of one component are all valid or all not. -/
def Agree (ids : List ComponentId) : Prop :=
  ∀ a ∈ ids, ∀ b ∈ ids, a.canonical = b.canonical → a.isValid = b.isValid

/-- All calls of a resolution succeed, and about each component of the batch a call finds what
`opinion` has for the provider and the component. What it finds about others is left open. -/
def Healthy (opinion : Provider σ → String → List Observation) (o : Options)
    (accepted : o.refusal? = none) (providers : List (Provider σ)) (ids : List ComponentId)
    (world : σ) : Prop :=
  ∀ turn ∈ providers.zip (roundsOf o accepted providers ids world), ∀ c ∈ turn.2.calls,
    c.succeeds o.timeout = true ∧
      ∀ id ∈ c.batch, c.answer.found.filter (·.id.sameAs id) = opinion turn.1 id.canonical

/-- What is known about a component after one more provider, which is asked about a valid component
that is not approved. -/
def hearNext (opinion : Provider σ → String → List Observation) (id : ComponentId)
    (seen : List Observation) (p : Provider σ) : List Observation :=
  if id.isValid && !seen.any (·.verdict == .approved) then seen ++ opinion p id.canonical else seen

/-- What providers say about a component, up to the first one that approves it. -/
def heard (opinion : Provider σ → String → List Observation) (providers : List (Provider σ))
    (id : ComponentId) : List Observation :=
  providers.foldl (hearNext opinion id) []

/-- The status of a component by all that providers have to say about it. -/
def knownStatus (opinion : Provider σ → String → List Observation) (providers : List (Provider σ))
    (id : ComponentId) : Status :=
  if !id.isValid then .unresolved
  else if providers.any fun p => (opinion p id.canonical).any (·.verdict == .approved) then
    .approved
  else if providers.any fun p => !(opinion p id.canonical).isEmpty then .restricted
  else .unresolved

section known

variable {opinion : Provider σ → String → List Observation} {id : ComponentId}

/-- Nothing is heard about an id that is not valid. -/
theorem foldl_hearNext_of_invalid (invalid : id.isValid = false) (providers : List (Provider σ))
    (seen : List Observation) : providers.foldl (hearNext opinion id) seen = seen := by
  induction providers with
  | nil => rfl
  | cons p providers ih =>
    have hnext : hearNext opinion id seen p = seen := by simp [hearNext, invalid]
    rw [List.foldl_cons, hnext]
    exact ih

/-- Nothing more is heard about an id that is approved. -/
theorem foldl_hearNext_of_approved {seen : List Observation}
    (approved : seen.any (·.verdict == .approved) = true) (providers : List (Provider σ)) :
    providers.foldl (hearNext opinion id) seen = seen := by
  induction providers with
  | nil => rfl
  | cons p providers ih =>
    have hnext : hearNext opinion id seen p = seen := by simp [hearNext, approved]
    rw [List.foldl_cons, hnext]
    exact ih

/-- An approval is heard if there was one or some provider has one. -/
theorem any_foldl_hearNext (valid : id.isValid = true) (providers : List (Provider σ))
    (seen : List Observation) :
    (providers.foldl (hearNext opinion id) seen).any (·.verdict == .approved) =
      (seen.any (·.verdict == .approved) ||
        providers.any fun p => (opinion p id.canonical).any (·.verdict == .approved)) := by
  induction providers generalizing seen with
  | nil => simp
  | cons p providers ih =>
    cases happroved : seen.any (·.verdict == .approved) with
    | true =>
      rw [foldl_hearNext_of_approved happroved, happroved]
      rfl
    | false =>
      have hnext : hearNext opinion id seen p = seen ++ opinion p id.canonical := by
        simp [hearNext, valid, happroved]
      rw [List.foldl_cons, hnext, ih, List.any_append, happroved, List.any_cons]
      rfl

/-- Without approvals nothing is heard exactly if no provider has anything to say. -/
theorem isEmpty_foldl_hearNext (valid : id.isValid = true) (providers : List (Provider σ))
    {seen : List Observation} (unapproved : seen.any (·.verdict == .approved) = false)
    (restricted : (providers.any fun p =>
      (opinion p id.canonical).any (·.verdict == .approved)) = false) :
    (providers.foldl (hearNext opinion id) seen).isEmpty =
      (seen.isEmpty && !providers.any fun p => !(opinion p id.canonical).isEmpty) := by
  induction providers generalizing seen with
  | nil => simp
  | cons p providers ih =>
    rw [List.any_cons, Bool.or_eq_false_iff] at restricted
    have hnext : hearNext opinion id seen p = seen ++ opinion p id.canonical := by
      simp [hearNext, valid, unapproved]
    have hopen : (seen ++ opinion p id.canonical).any (·.verdict == .approved) = false := by
      rw [List.any_append, unapproved, restricted.1]
      rfl
    have hempty : (seen ++ opinion p id.canonical).isEmpty =
        (seen.isEmpty && (opinion p id.canonical).isEmpty) := by
      cases seen <;> rfl
    rw [List.foldl_cons, hnext, ih hopen restricted.2, List.any_cons, hempty]
    cases seen.isEmpty <;> cases (opinion p id.canonical).isEmpty <;> rfl

/-- Where the providers stop being asked does not change the status. -/
theorem status_heard (e : Entry) (providers : List (Provider σ))
    (observed : e.observations = heard opinion providers id) :
    e.status = knownStatus opinion providers id := by
  unfold Entry.status knownStatus
  rw [observed, heard]
  cases hvalid : id.isValid with
  | false =>
    rw [foldl_hearNext_of_invalid hvalid]
    rfl
  | true =>
    rw [any_foldl_hearNext hvalid]
    cases happroved : providers.any fun p =>
      (opinion p id.canonical).any (·.verdict == .approved) with
    | true => rfl
    | false =>
      rw [isEmpty_foldl_hearNext hvalid providers rfl happroved]
      cases providers.any fun p => !(opinion p id.canonical).isEmpty <;> rfl

/-- The order of the providers makes no difference to the known status. -/
theorem knownStatus_perm {providers providers' : List (Provider σ)}
    (h : providers.Perm providers') :
    knownStatus opinion providers' id = knownStatus opinion providers id := by
  unfold knownStatus
  rw [h.any_eq, h.any_eq]

/-- More providers know no less. -/
theorem rank_knownStatus_le {providers providers' : List (Provider σ)}
    (h : providers.Sublist providers') :
    (knownStatus opinion providers id).rank ≤ (knownStatus opinion providers' id).rank := by
  have hmono (f : Provider σ → Bool) (hany : providers.any f = true) :
      providers'.any f = true := by
    obtain ⟨p, hp, hf⟩ := List.any_eq_true.1 hany
    exact List.any_eq_true.2 ⟨p, h.subset hp, hf⟩
  unfold knownStatus
  cases id.isValid with
  | false => exact Nat.le_refl _
  | true =>
    cases happroved : providers.any fun p =>
      (opinion p id.canonical).any (·.verdict == .approved) with
    | true =>
      rw [hmono _ happroved]
      exact Nat.le_refl _
    | false =>
      cases hanswered : providers.any fun p => !(opinion p id.canonical).isEmpty with
      | true =>
        rw [hmono _ hanswered]
        cases providers'.any fun p => (opinion p id.canonical).any (·.verdict == .approved) with
        | true => exact Nat.le_succ 1
        | false => exact Nat.le_refl 1
      | false => exact Nat.zero_le _

end known

/-! ## Healthy resolutions -/

section healthy

variable {opinion : Provider σ → String → List Observation} {o : Options}

/-- A round of healthy calls answers about a component that is due with what its provider says. -/
theorem answers_of_healthy {p : Provider σ} {name : String} {calls : List Call}
    (healthy : ∀ c ∈ calls, c.succeeds o.timeout = true ∧
      ∀ id ∈ c.batch, c.answer.found.filter (·.id.sameAs id) = opinion p id.canonical)
    {id : ComponentId} (asked : id ∈ calls.flatMap (·.batch)) :
    Round.answers o.timeout id ⟨name, calls⟩ = opinion p id.canonical := by
  obtain ⟨c, hc, hbatch⟩ := List.mem_flatMap.1 asked
  have hin : id.isIn c.batch = true := ComponentId.isIn_iff.2 ⟨id, hbatch, rfl⟩
  unfold Round.answers
  cases hfind : calls.find? fun c => id.isIn c.batch with
  | none => exact absurd hin (List.find?_eq_none.1 hfind c hc)
  | some call =>
    obtain ⟨hsucceeds, hfound⟩ := healthy call (List.mem_of_find?_eq_some hfind)
    have hcall : id.isIn call.batch = true := by simpa using List.find?_some hfind
    obtain ⟨other, hother, heq⟩ := ComponentId.isIn_iff.1 hcall
    have hsame : (fun obs : Observation => obs.id.sameAs id) = fun obs => obs.id.sameAs other := by
      funext obs
      rw [ComponentId.sameAs, ComponentId.sameAs, heq]
    dsimp only
    rw [if_pos hsucceeds, hsame, hfound other hother, heq]

/-- The walk of a component over healthy rounds is what the providers say about it. -/
theorem walk_transcript {size_pos : 0 < o.batchSize} {ids : List ComponentId}
    {id : ComponentId} (requested : id ∈ ids) (providers : List (Provider σ))
    (earlier : List Round) (world : σ)
    (healthy : ∀ turn ∈ providers.zip (transcript o size_pos ids providers earlier world),
      ∀ c ∈ turn.2.calls, c.succeeds o.timeout = true ∧
        ∀ id ∈ c.batch, c.answer.found.filter (·.id.sameAs id) = opinion turn.1 id.canonical) :
    walk o.timeout id (earlier ++ transcript o size_pos ids providers earlier world) =
      providers.foldl (hearNext opinion id) (walk o.timeout id earlier) := by
  induction providers generalizing earlier world with
  | nil => rw [transcript, List.append_nil, List.foldl_nil]
  | cons p providers ih =>
    rw [transcript] at healthy ⊢
    generalize hbatches : Batches.chunks o.batchSize size_pos
      (ids.filter (isDue o.timeout earlier)) = batches at healthy ⊢
    rw [List.zip_cons_cons, List.forall_mem_cons] at healthy
    obtain ⟨hround, hrest⟩ := healthy
    have hasked : (p.calls batches world).flatMap (·.batch) =
        ids.filter (isDue o.timeout earlier) := by
      rw [Provider.flatMap_batch_calls, ← hbatches, Batches.flatten_chunks]
    have hnext : walk o.timeout id (earlier ++ [⟨p.name, p.calls batches world⟩]) =
        hearNext opinion id (walk o.timeout id earlier) p := by
      rw [walk_concat]
      unfold hearNext
      cases hdue : isDue o.timeout earlier id with
      | true =>
        have hmem : id ∈ (p.calls batches world).flatMap (·.batch) := by
          rw [hasked]
          exact List.mem_filter.2 ⟨requested, hdue⟩
        rw [isDue] at hdue
        rw [hdue, answers_of_healthy hround hmem]
      | false =>
        rw [isDue] at hdue
        rw [hdue]
        rfl
    rw [List.append_cons, ih _ _ hrest, hnext, List.foldl_cons]

/-- There is one round for each provider. -/
theorem length_transcript (o : Options) (size_pos : 0 < o.batchSize) (ids : List ComponentId)
    (providers : List (Provider σ)) (earlier : List Round) (world : σ) :
    (transcript o size_pos ids providers earlier world).length = providers.length := by
  induction providers generalizing earlier world with
  | nil => rfl
  | cons p providers ih => rw [transcript, List.length_cons, List.length_cons, ih]

/-- No call of a healthy run fails. -/
theorem Healthy.failure?_eq_none {accepted : o.refusal? = none} {providers : List (Provider σ)}
    {ids : List ComponentId} {world : σ}
    (healthy : Healthy opinion o accepted providers ids world) :
    ∀ call ∈ allCalls (roundsOf o accepted providers ids world),
      call.2.failure? o.timeout = none := by
  intro call hcall
  obtain ⟨round, hround, hlabelled⟩ := List.mem_flatMap.1 hcall
  obtain ⟨c, hc, rfl⟩ := List.mem_map.1 hlabelled
  have hlength : (roundsOf o accepted providers ids world).length ≤ providers.length :=
    Nat.le_of_eq (length_transcript o _ _ providers [] world)
  rw [← List.map_snd_zip hlength] at hround
  obtain ⟨turn, hturn, rfl⟩ := List.mem_map.1 hround
  exact Call.failure?_eq_none_iff.2 (healthy turn hturn c hc).1

/-- What is heard about an id depends on its canonical text and its validity alone. -/
theorem heard_congr {a b : ComponentId} (hcanonical : a.canonical = b.canonical)
    (hvalid : a.isValid = b.isValid) (providers : List (Provider σ)) :
    heard opinion providers a = heard opinion providers b := by
  have hnext : hearNext opinion a = hearNext opinion b := by
    funext seen p
    rw [hearNext, hearNext, hcanonical, hvalid]
  rw [heard, heard, hnext]

/-- A healthy resolution is complete in both modes, and what it finds about a component is what the
providers say about it. -/
theorem exists_resolve_of_healthy {accepted : o.refusal? = none} {providers : List (Provider σ)}
    {ids : List ComponentId} {world : σ} (agree : Agree ids)
    (healthy : Healthy opinion o accepted providers ids world) :
    ∃ r, resolve providers o ids world = .ok r ∧ r.outcome = .complete ∧
      r.asked = (roundsOf o accepted providers ids world).map Round.batches ∧
      ∀ id ∈ ids, ∃ e, r.register.find? id.canonical = some e ∧
        e.observations = heard opinion providers id ∧
        e.status = knownStatus opinion providers id := by
  obtain ⟨r, hresolve, hsettle, hasked⟩ := resolve_eq_settle accepted providers ids world
  have hharmless : ∀ call ∈ allCalls (roundsOf o accepted providers ids world),
      call.2.fatal? o.timeout o.mode = none := by
    intro call hcall
    exact Call.fatal?_eq_none (healthy.failure?_eq_none call hcall)
  rw [settle_eq_complete_iff.2 ⟨hharmless, rfl⟩] at hsettle
  obtain ⟨hcomplete, hregister⟩ := Prod.mk.inj hsettle
  refine ⟨r, hresolve, hcomplete.symm, hasked hcomplete.symm, fun id hid => ?_⟩
  have hdistinct := ComponentId.pairwise_firstOccurrences ids
  obtain ⟨first, hfirst, hcanonical⟩ := ComponentId.exists_mem_firstOccurrences hid
  have hrequested : first ∈ ids := by
    have hfind := ComponentId.find?_of_mem hdistinct hfirst
    rw [ComponentId.find?_firstOccurrences] at hfind
    exact List.mem_of_find?_eq_some hfind
  have htracks : Tracks o.timeout (ComponentId.firstOccurrences ids) r.register
      (roundsOf o accepted providers ids world) := by
    rw [← hregister]
    exact Tracks.hear_transcript hdistinct providers (tracks_ofIds hdistinct) world
  have hentry := htracks first hfirst
  have hwalk : walk o.timeout first (roundsOf o accepted providers ids world) =
      heard opinion providers id := by
    rw [← heard_congr hcanonical (agree first hrequested id hid hcanonical)]
    exact walk_transcript hfirst providers [] world healthy
  rw [hcanonical, hwalk] at hentry
  exact ⟨_, hentry, rfl, status_heard _ providers rfl⟩

end healthy

/-- Where all calls succeed and each provider answers about each component of a batch in its own
way, a component is approved if it is valid and any provider approves it, or else restricted if any
provider says something about it, or else unresolved. So any other such resolution gives it the same
status, whatever the options, the other components and the order of the providers are; with further
providers the status is no lower; and with the same providers the observations are the same. -/
theorem resolve_status_of_healthy (opinion : Provider σ → String → List Observation)
    (providers : List (Provider σ)) (o : Options) (ids : List ComponentId) (world : σ)
    (accepted : o.refusal? = none) (agree : Agree ids)
    (healthy : Healthy opinion o accepted providers ids world) :
    ∃ r, resolve providers o ids world = .ok r ∧ r.outcome = .complete ∧
      r.asked = (roundsOf o accepted providers ids world).map Round.batches ∧
      (∀ id ∈ ids, ∃ e, r.register.find? id.canonical = some e ∧
        e.observations = heard opinion providers id ∧
        e.status = knownStatus opinion providers id) ∧
      ∀ (providers' : List (Provider σ)) (o' : Options) (ids' : List ComponentId) (world' : σ)
        (accepted' : o'.refusal? = none), Agree ids' →
        Healthy opinion o' accepted' providers' ids' world' →
        ∃ r', resolve providers' o' ids' world' = .ok r' ∧
          ∀ id ∈ ids, id ∈ ids' →
            ∃ e e', r.register.find? id.canonical = some e ∧
              r'.register.find? id.canonical = some e' ∧
              (providers.Perm providers' → e'.status = e.status) ∧
              (providers.Sublist providers' → e.status.rank ≤ e'.status.rank) ∧
              (providers' = providers → e'.observations = e.observations) := by
  obtain ⟨r, hresolve, hcomplete, hasked, hentries⟩ := exists_resolve_of_healthy agree healthy
  refine ⟨r, hresolve, hcomplete, hasked, hentries, ?_⟩
  intro providers' o' ids' world' accepted' agree' healthy'
  obtain ⟨r', hresolve', -, -, hentries'⟩ := exists_resolve_of_healthy agree' healthy'
  refine ⟨r', hresolve', fun id hid hid' => ?_⟩
  obtain ⟨e, he, hobservations, hstatus⟩ := hentries id hid
  obtain ⟨e', he', hobservations', hstatus'⟩ := hentries' id hid'
  refine ⟨e, e', he, he', ?_, ?_, ?_⟩
  · intro hperm
    rw [hstatus, hstatus', knownStatus_perm hperm]
  · intro hsublist
    rw [hstatus, hstatus']
    exact rank_knownStatus_le hsublist
  · rintro rfl
    rw [hobservations, hobservations']

/-- Two providers in both orders, with the components all together or one at a time: what the
provider that does not approve says is kept only where it is asked first. -/
theorem resolve_status_of_healthy_of_two_orders :
    let a : ComponentId := .located ⟨"npm", "npmjs", none, "a", "1"⟩
    let b : ComponentId := .located ⟨"npm", "npmjs", none, "b", "1"⟩
    let note (id : ComponentId) (verdict : Verdict) : Observation :=
      ⟨id, "MIT", 90, verdict, "", none⟩
    let first : Provider Unit :=
      .constant "first" { found := [note a .restricted, note b .restricted] }
    let second : Provider Unit := .constant "second" { found := [note a .approved] }
    ∃ r r' e e', resolve [first, second] {} [a, b] () = .ok r ∧
      resolve [second, first] { batchSize := 1, concurrency := 2, mode := .failFast }
        [b, .unrecognised "?", a, b] () = .ok r' ∧
      r.register.find? a.canonical = some e ∧ r'.register.find? a.canonical = some e' ∧
      e.observations = [note a .restricted, note a .approved] ∧
      e'.observations = [note a .approved] ∧ e'.status = e.status := by
  intro a b note first second
  let opinion (p : Provider Unit) (key : String) : List Observation :=
    (p.query [] ()).1.found.filter (·.id.canonical == key)
  let o : Options := { batchSize := 1, concurrency := 2, mode := .failFast }
  have agree : Agree [a, b] := by
    unfold Agree
    decide +kernel
  have agree' : Agree [b, .unrecognised "?", a, b] := by
    unfold Agree
    decide +kernel
  have healthy : Healthy opinion {} rfl [first, second] [a, b] () := by
    unfold Healthy
    decide +kernel
  have healthy' : Healthy opinion o rfl [second, first] [b, .unrecognised "?", a, b] () := by
    unfold Healthy
    decide +kernel
  obtain ⟨r, hresolve, -, -, -, hothers⟩ :=
    resolve_status_of_healthy opinion [first, second] {} [a, b] () rfl agree healthy
  obtain ⟨r', hresolve', hcompare⟩ :=
    hothers [second, first] o [b, .unrecognised "?", a, b] () rfl agree' healthy'
  obtain ⟨e, e', he, he', hperm, -, -⟩ := hcompare a (by simp) (by simp)
  have hfound : (resolve [first, second] {} [a, b] ()).toOption.map
      (·.register.find? a.canonical) = some (some ⟨a, [note a .restricted, note a .approved]⟩) := by
    decide +kernel
  have hfound' : (resolve [second, first] o [b, .unrecognised "?", a, b] ()).toOption.map
      (·.register.find? a.canonical) = some (some ⟨a, [note a .approved]⟩) := by
    decide +kernel
  rw [hresolve] at hfound
  rw [hresolve'] at hfound'
  obtain rfl := Option.some.inj (he.symm.trans (Option.some.inj hfound))
  obtain rfl := Option.some.inj (he'.symm.trans (Option.some.inj hfound'))
  exact ⟨r, r', _, _, hresolve, hresolve', he, he', rfl, rfl,
    hperm (List.Perm.swap second first [])⟩

end Clearance
