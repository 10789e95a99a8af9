import Clearance.Proofs.Resolution.Evidence
import Clearance.Proofs.Service.Exchange

/-!
# Where observations come from

A transport that keeps its requests with their replies (`Transport.logged`) shows where the
observations of a deployment come from: each was decoded from the body of a successful reply, to a
request about a batch with the component in whose entry it stands. It is a batch that the service
was asked about in its turn. What replies say about other components has no effect.

The batch is not quite what the request lists. ClearlyDefined is sent no bundles of p2, which it
does not know, but where it answers about such a bundle of the batch nevertheless, this is believed.
Every other component with an observation was listed in the request (`mem_listed_or_bundle`).
-/

set_option autoImplicit false

namespace Clearance

universe u

variable {σ : Type u}

/-! ## Decoding -/

/-- A reply that is decoded was successful, and its body was read. -/
theorem Reply.of_decoded_eq_ok {decode : Json.Value → Except Failure (List Observation)}
    {reply : Reply} {found : List Observation} (h : reply.decoded decode = .ok found) :
    ∃ status body, reply = .answered status body ∧ 200 ≤ status ∧ status < 300 := by
  cases reply with
  | failed => cases h
  | answered status body =>
    by_cases hsuccess : 200 ≤ status ∧ status < 300
    · exact ⟨status, body, rfl, hsuccess⟩
    · rw [decoded, if_neg hsuccess] at h
      cases h

/-- The ids that a request to a service lists, read from its body. -/
def Service.listed? : Service → Request → Option (List String)
  | .foundation => Foundation.listed?
  | .clearlyDefined => ClearlyDefined.listed?

namespace Settings

/-- ClearlyDefined as it is configured. -/
def clearlyDefined (s : Settings) : ClearlyDefined where
  url := s.clearlyDefinedUrl
  approved := s.approvedSet
  threshold := s.threshold

/-- What the value in the body of a reply is decoded to. -/
def decode (s : Settings) : Service → Json.Value → Except Failure (List Observation)
  | .foundation => Foundation.decode
  | .clearlyDefined => s.clearlyDefined.decode

variable (s : Settings) (transport : Transport σ)

/-- The calls to a service of a deployment ask about what it lists of a batch. -/
theorem exchanges_provider (service : Service) (batch : List ComponentId) :
    Exchanges transport (s.provider transport.logged service) batch (s.listed service batch)
      service.listed? (s.decode service) := by
  cases service with
  | foundation =>
    have hlisted : s.listed .foundation batch =
        if Text.trim s.foundationUrl = "" then [] else batch := by
      simp only [listed, Text.isBlankText_iff]
    rw [hlisted]
    exact Foundation.exchanges ⟨s.foundationUrl, s.project⟩ transport batch
  | clearlyDefined => exact s.clearlyDefined.exchanges transport batch

/-- The request of a service lists what is sent to it. -/
theorem listed?_request (service : Service) (ids : List ComponentId) :
    service.listed? (s.request (service, ids)) = some (ids.map (·.canonical)) := by
  cases service with
  | foundation => exact Foundation.listed?_request _ ids
  | clearlyDefined => exact ClearlyDefined.listed?_request _ ids

/-! ## Evidence -/

/-- A log holds a reply with an observation to the request about what a service lists of a batch. -/
def Replied (s : Settings) (log : List (Request × Reply)) (service : Service)
    (batch : List ComponentId) (o : Observation) : Prop :=
  s.listed service batch ≠ [] ∧ ∃ reply found,
    (s.request (service, s.listed service batch), reply) ∈ log ∧
      reply.decoded (s.decode service) = .ok found ∧ o ∈ found

/-- A log that goes on still holds the reply. -/
theorem Replied.append {s : Settings} {log : List (Request × Reply)} {service : Service}
    {batch : List ComponentId} {o : Observation} (h : s.Replied log service batch o)
    (more : List (Request × Reply)) : s.Replied (log ++ more) service batch o := by
  obtain ⟨hsome, reply, found, hlogged, hfound⟩ := h
  exact ⟨hsome, reply, found, List.mem_append_left _ hlogged, hfound⟩

/-- A call adds at most its own request to the log. -/
theorem logged_query (service : Service) (batch : List ComponentId)
    (world : σ × List (Request × Reply)) :
    ∃ more, ((s.provider transport.logged service).query batch world).2.2 = world.2 ++ more := by
  obtain ⟨hsilent, honce⟩ := s.exchanges_provider transport service batch
  by_cases hasked : s.listed service batch = []
  · refine ⟨[], ?_⟩
    rw [(hsilent hasked world.1 world.2).1, List.append_nil]
  · obtain ⟨request, -, hcall⟩ := honce hasked
    exact ⟨_, congrArg Prod.snd (hcall world.1 world.2).1⟩

/-- What a call finds stands in the reply to its request. -/
theorem replied_query (service : Service) (batch : List ComponentId)
    (world : σ × List (Request × Reply)) {o : Observation}
    (h : o ∈ ((s.provider transport.logged service).query batch world).1.found) :
    s.Replied ((s.provider transport.logged service).query batch world).2.2 service batch o := by
  obtain ⟨hsilent, honce⟩ := s.exchanges_provider transport service batch
  have hsome : s.listed service batch ≠ [] := by
    intro hnone
    cases (hsilent hnone world.1 world.2).2 with
    | observed _ hnothing =>
      rw [hnothing] at h
      cases h
  obtain ⟨request, -, hcall⟩ := honce hsome
  obtain ⟨hworld, hends⟩ := hcall world.1 world.2
  have hlog := congrArg Prod.snd hworld
  -- The log shows one more request, which is that about what is listed.
  have hrequest : request = s.request (service, s.listed service batch) := by
    have hsent := s.sent_query transport service batch world
    rw [hlog, List.map_append, List.append_cancel_left_eq] at hsent
    simpa [exchanges, hsome] using hsent
  refine ⟨hsome, (transport request world.1).1, ?_⟩
  rw [hlog, ← hrequest]
  cases hdecoded : (transport request world.1).1.decoded (s.decode service) with
  | error failure =>
    rw [hdecoded] at hends
    cases hends with
    | failed _ hnothing =>
      rw [hnothing] at h
      cases h
  | ok found =>
    rw [hdecoded] at hends
    cases hends with
    | observed _ hall => exact ⟨found, List.mem_append_right _ List.mem_cons_self, rfl, hall ▸ h⟩

/-- The calls to the service at a position of the order leave the replies as evidence. -/
theorem leaves_provider {i : ℕ} {service : Service} (ordered : s.order[i]? = some service) :
    (s.provider transport.logged service).Leaves
      (fun i world batch o => ∃ service, s.order[i]? = some service ∧
        s.Replied world.2 service batch o) i where
  keeps := by
    rintro j asked world batch o ⟨other, hother, hreplied⟩
    obtain ⟨more, hmore⟩ := s.logged_query transport service asked world
    refine ⟨other, hother, ?_⟩
    rw [hmore]
    exact hreplied.append more
  finds := by
    intro asked world o ho
    exact ⟨service, ordered, s.replied_query transport service asked world ho⟩

/-- What a request leaves out of its batch are bundles that ClearlyDefined is not sent. -/
theorem mem_listed_or_bundle {service : Service} {batch : List ComponentId} {id : ComponentId}
    (sent : s.listed service batch ≠ []) (h : id ∈ batch) :
    id ∈ s.listed service batch ∨ service = .clearlyDefined ∧ id.kind? = some "p2" := by
  cases service with
  | foundation =>
    left
    by_cases hblank : Text.isBlankText s.foundationUrl = true
    · exact absurd (if_pos hblank) sent
    · have hlisted : s.listed .foundation batch = batch := if_neg hblank
      rw [hlisted]
      exact h
  | clearlyDefined =>
    by_cases hkind : id.kind? = some "p2"
    · exact Or.inr ⟨rfl, hkind⟩
    · left
      exact List.mem_filter.2 ⟨h, by simp [ClearlyDefined.isSupported, hkind]⟩

end Settings

/-- A resolution with the services of a deployment believes only what successful replies to its own
requests say about the batches that these requests are about, among those that the service was asked
about. The ids that a request lists can be read from its body. The component is one of them, or it
is a bundle of the batch that ClearlyDefined is not sent. Whatever else the replies say has no
effect. -/
theorem resolve_believes_batch (s : Settings) (transport : Transport σ) (o : Options)
    (ids : List ComponentId) (world : σ) (order : s.refusal? = none)
    (accepted : o.refusal? = none) :
    ∃ services r, s.providers transport.logged = .ok services ∧
      resolve services o ids (world, []) = .ok r ∧
      (∀ key e, r.register.find? key = some e → ∀ obs ∈ e.observations,
        e.id.canonical = key ∧ obs.id.canonical = key ∧
        ∃ service batches, (service, batches) ∈ s.order.zip r.asked ∧ ∃ batch ∈ batches,
          e.id ∈ batch ∧ ∃ request listing status body found,
            request = s.request (service, s.listed service batch) ∧
            (request, .answered status body) ∈ r.world.2 ∧ 200 ≤ status ∧ status < 300 ∧
            (Reply.answered status body).decoded (s.decode service) = .ok found ∧ obs ∈ found ∧
            service.listed? request = some listing ∧
            (e.id ∈ s.listed service batch ∧ e.id.canonical ∈ listing ∨
              service = .clearlyDefined ∧ e.id.kind? = some "p2")) ∧
      ∃ r', resolve (services.map Provider.confined) o ids (world, []) = .ok r' ∧
        r'.outcome = r.outcome ∧ r'.register = r.register ∧ r'.asked = r.asked ∧
        r'.world = r.world := by
  have hproviders : s.providers transport.logged =
      .ok (s.order.map (s.provider transport.logged)) := by
    rw [Settings.providers, order]
  obtain ⟨r, hresolve, -⟩ := resolve_asks_due accepted (s.order.map (s.provider transport.logged))
    ids (world, [])
  refine ⟨_, r, hproviders, hresolve, ?_, resolve_confined hresolve⟩
  intro key e he obs hobs
  -- What a provider leaves of an observation is the reply on record that its service decodes to it.
  have hleaves : ∀ (i : ℕ) p, (s.order.map (s.provider transport.logged))[i]? = some p →
      p.Leaves (fun i world batch o => ∃ service, s.order[i]? = some service ∧
        s.Replied world.2 service batch o) i := by
    intro i p hp
    rw [List.getElem?_map, Option.map_eq_some_iff] at hp
    obtain ⟨service, hservice, rfl⟩ := hp
    exact s.leaves_provider transport hservice
  obtain ⟨hid, hkey, i, batches, hasked, batch, hbatch, hin, service, hservice, hsome, reply, found,
    hlogged, hdecoded, hfound⟩ := exists_evidence_of_resolve hresolve hleaves he hobs
  obtain ⟨status, body, rfl, hsuccess⟩ := Reply.of_decoded_eq_ok hdecoded
  have hturn : (service, batches) ∈ s.order.zip r.asked :=
    List.mem_of_getElem? (List.getElem?_zip_eq_some.2 ⟨hservice, hasked⟩)
  refine ⟨hid, hkey, service, batches, hturn, batch, hbatch, hin, _, _, status, body, found, rfl,
    hlogged, hsuccess.1, hsuccess.2, hdecoded, hfound, s.listed?_request service _, ?_⟩
  exact (s.mem_listed_or_bundle hsome hin).imp_left fun h => ⟨h, List.mem_map_of_mem h⟩

/-- Of the two packages the first is answered about, and the second is believed only where it is
asked for, which fails. -/
theorem resolve_believes_batch_of_stray_answer :
    let a : ComponentId := .located ⟨"npm", "npmjs", none, "a", "1"⟩
    let b : ComponentId := .located ⟨"npm", "npmjs", none, "b", "1"⟩
    let s : Settings :=
      { order := [.clearlyDefined], approved := some ["MIT"], threshold := 0, batchSize := 1 }
    let definition : Json.Value := .object [("licensed", .object [("declared", .string "MIT")])]
    let body := (Json.Value.object [(a.canonical, definition), (b.canonical, definition)]).print
    let transport : Transport Unit := fun request world =>
      (if request = s.request (.clearlyDefined, [a]) then .answered 200 body
        else .answered 404 "", world)
    ∃ services r, s.providers transport.logged = .ok services ∧
      resolve services s.options [a, b] ((), []) = .ok r ∧
      (r.register.find? a.canonical).map Entry.status = some .approved ∧
      (r.register.find? b.canonical).map Entry.status = some .unresolved ∧
      ∃ r', resolve (services.map Provider.confined) s.options [a, b] ((), []) = .ok r' ∧
        r'.register = r.register := by
  intro a b s definition body transport
  obtain ⟨services, r, hservices, hresolve, -, r', hconfined, -, hregister, -⟩ :=
    resolve_believes_batch s transport s.options [a, b] () (by decide) (by decide)
  refine ⟨services, r, hservices, hresolve, ?_⟩
  have hrun : ((resolve (s.order.map (s.provider transport.logged)) s.options [a, b]
      ((), [])).toOption.map fun r => ((r.register.find? a.canonical).map Entry.status,
        (r.register.find? b.canonical).map Entry.status)) =
      some (some .approved, some .unresolved) := by
    decide +kernel
  rw [Except.ok.inj hservices, hresolve] at hrun
  obtain ⟨ha, hb⟩ := Prod.mk.inj (Option.some.inj hrun)
  exact ⟨ha, hb, r', hconfined, hregister⟩

/-- The reply to a request that lists a package alone approves a bundle of its batch as well. -/
theorem approves_unlisted_bundle :
    let bundle : ComponentId :=
      .located ⟨"p2", "orbit", some "p2.eclipse-plugin", "org.jaxen", "1.1.6"⟩
    let package : ComponentId := .located ⟨"npm", "npmjs", none, "x", "1"⟩
    let s : Settings := { order := [.clearlyDefined], approved := some ["MIT"], threshold := 0 }
    let definition : Json.Value := .object [("licensed", .object [("declared", .string "MIT")])]
    let body := (Json.Value.object
      [(package.canonical, definition), (bundle.canonical, definition)]).print
    let transport : Transport Unit := fun _ world => (.answered 200 body, world)
    ∃ services r e, s.providers transport.logged = .ok services ∧
      resolve services s.options [bundle, package] ((), []) = .ok r ∧
      r.register.find? bundle.canonical = some e ∧
      e.observations.map (·.id) = [bundle] ∧ e.status = .approved ∧
      r.world.2 = [(s.request (.clearlyDefined, [package]), .answered 200 body)] ∧
      bundle.canonical ∉ [package].map (·.canonical) := by
  intro bundle package s definition body transport
  have hrun : ((resolve (s.order.map (s.provider transport.logged)) s.options [bundle, package]
      ((), [])).toOption.bind fun r => (r.register.find? bundle.canonical).map fun e =>
        (r.world.2, e.observations.map (·.id), e.status)) =
      some ([(s.request (.clearlyDefined, [package]), .answered 200 body)], [bundle],
        .approved) := by
    decide +kernel
  obtain ⟨r, hresolve, hrun⟩ := Option.bind_eq_some_iff.1 hrun
  obtain ⟨e, he, hrun⟩ := Option.map_eq_some_iff.1 hrun
  simp only [Prod.mk.injEq] at hrun
  obtain ⟨hlog, hobservations, hstatus⟩ := hrun
  refine ⟨_, r, e, rfl, ?_, he, hobservations, hstatus, hlog, by decide⟩
  cases hresult : resolve (s.order.map (s.provider transport.logged)) s.options [bundle, package]
      ((), []) with
  | error refusal =>
    rw [hresult] at hresolve
    cases hresolve
  | ok result =>
    rw [hresult] at hresolve
    rw [Option.some.inj hresolve]

end Clearance
