import Clearance.Proofs.Resolution.Queries
import Clearance.Settings

/-!
# Requests of a deployment

The services of a deployment post their requests through one transport. A transport that keeps
what it is sent with the replies (`Transport.logged`) shows all requests of a run. They are
determined by what the providers are asked about: one request for each batch in which the service
lists any component (`Settings.exchanges`, `sent_world`). As a service stands in the order at most
once and a provider is asked about a component at most once, no service sees a component twice.
-/

set_option autoImplicit false

namespace Clearance

universe u

variable {σ : Type u}

/-! ## The order of services -/

namespace Service

/-- The search finds no repetition exactly if there is none, also of what was seen before. -/
theorem go_eq_none_iff (seen order : List Service) :
    firstRepeated?.go seen order = none ↔ order.Nodup ∧ ∀ service ∈ order, service ∉ seen := by
  induction order generalizing seen with
  | nil => simp [firstRepeated?.go]
  | cons service order ih =>
    unfold firstRepeated?.go
    split
    · next hseen =>
      refine iff_of_false (by simp) ?_
      rintro ⟨-, hfresh⟩
      exact hfresh service List.mem_cons_self hseen
    · next hseen =>
      rw [ih, List.nodup_cons]
      constructor
      · rintro ⟨hnodup, hfresh⟩
        refine ⟨⟨?_, hnodup⟩, ?_⟩
        · intro hmem
          exact hfresh service hmem List.mem_cons_self
        · intro other hother
          rcases List.mem_cons.1 hother with rfl | hrest
          · exact hseen
          · exact fun h => hfresh other hrest (List.mem_cons_of_mem _ h)
      · rintro ⟨⟨hnotmem, hnodup⟩, hfresh⟩
        refine ⟨hnodup, ?_⟩
        intro other hother hmem
        rcases List.mem_cons.1 hmem with rfl | hold
        · exact hnotmem hother
        · exact hfresh other (List.mem_cons_of_mem _ hother) hold

/-- The search for a repeated service finds none exactly if the services are distinct. -/
theorem firstRepeated?_eq_none_iff (order : List Service) :
    firstRepeated? order = none ↔ order.Nodup := by
  rw [firstRepeated?, go_eq_none_iff]
  simp

end Service

/-! ## Requests -/

/-- The transport that keeps each request with the reply to it, in their order. -/
def Transport.logged (transport : Transport σ) : Transport (σ × List (Request × Reply)) :=
  fun request world =>
    ((transport request world.1).1,
      ((transport request world.1).2, world.2 ++ [(request, (transport request world.1).1)]))

namespace Settings

/-- The components of a batch that a service is sent: none without an address, and none of a kind
that it does not know. -/
def listed (s : Settings) : Service → List ComponentId → List ComponentId
  | .foundation, batch => if Text.isBlankText s.foundationUrl then [] else batch
  | .clearlyDefined, batch => batch.filter ClearlyDefined.isSupported

/-- The request to a service about components. -/
def request (s : Settings) : Service × List ComponentId → Request
  | (.foundation, listed) =>
    Foundation.request { url := s.foundationUrl, project := s.project } listed
  | (.clearlyDefined, listed) =>
    ClearlyDefined.request
      { url := s.clearlyDefinedUrl, approved := s.approvedSet, threshold := s.threshold } listed

/-- What a service is sent for batches: the lists of components that are not empty. -/
def exchanges (s : Settings) (turn : Service × List (List ComponentId)) :
    List (Service × List ComponentId) :=
  ((turn.2.map (s.listed turn.1)).filter (!·.isEmpty)).map (turn.1, ·)

/-- What all services of the order are sent, for what each of them is asked about. -/
def allExchanges (s : Settings) (asked : List (List (List ComponentId))) :
    List (Service × List ComponentId) :=
  (s.order.zip asked).flatMap s.exchanges

variable (s : Settings) (transport : Transport σ)

/-- The exchanges about the first batch come before the others. -/
theorem exchanges_cons (service : Service) (batch : List ComponentId)
    (batches : List (List ComponentId)) :
    s.exchanges (service, batch :: batches) =
      s.exchanges (service, [batch]) ++ s.exchanges (service, batches) := by
  unfold exchanges
  rw [← List.map_append, ← List.filter_append]
  rfl

/-- A call sends one request, or none if the service lists nothing of the batch. -/
theorem sent_query (service : Service) (batch : List ComponentId)
    (world : σ × List (Request × Reply)) :
    ((s.provider transport.logged service).query batch world).2.2.map (·.1) =
      world.2.map (·.1) ++ (s.exchanges (service, [batch])).map s.request := by
  cases service with
  | foundation =>
    cases batch with
    | nil => simp [provider, Foundation.provider, exchanges, listed]
    | cons id batch =>
      by_cases hblank : Text.isBlankText s.foundationUrl = true
      · simp [provider, Foundation.provider, exchanges, listed, hblank]
      · simp [provider, Foundation.provider, exchanges, listed, hblank, Transport.logged, request]
  | clearlyDefined =>
    cases hsupported : batch.filter ClearlyDefined.isSupported with
    | nil => simp [provider, ClearlyDefined.provider, exchanges, listed, hsupported]
    | cons id supported =>
      simp [provider, ClearlyDefined.provider, exchanges, listed, hsupported, Transport.logged,
        request]

/-- The requests of calls one after the other. -/
theorem sent_worldAfter (service : Service) (batches : List (List ComponentId))
    (world : σ × List (Request × Reply)) :
    ((s.provider transport.logged service).worldAfter batches world).2.map (·.1) =
      world.2.map (·.1) ++ (s.exchanges (service, batches)).map s.request := by
  induction batches generalizing world with
  | nil => simp [Provider.worldAfter, exchanges]
  | cons batch batches ih =>
    rw [Provider.worldAfter, ih, sent_query, s.exchanges_cons service batch batches,
      List.map_append, List.append_assoc]

/-- The requests of services one after the other. -/
theorem sent_world (turns : List (Service × List (List ComponentId)))
    (world : σ × List (Request × Reply)) :
    (turns.foldl (fun world turn =>
        (s.provider transport.logged turn.1).worldAfter turn.2 world) world).2.map (·.1) =
      world.2.map (·.1) ++ (turns.flatMap s.exchanges).map s.request := by
  induction turns generalizing world with
  | nil => simp
  | cons turn turns ih =>
    rw [List.foldl_cons, ih, sent_worldAfter, List.flatMap_cons, List.map_append,
      List.append_assoc]

/-! ## Components seen by a service -/

/-- All components that exchanges name to a service, with repetitions. -/
def seenBy (service : Service) (exchanges : List (Service × List ComponentId)) :
    List ComponentId :=
  (exchanges.filter (·.1 = service)).flatMap (·.2)

/-- A service sees the exchanges in the order in which they are made. -/
theorem seenBy_append (service : Service) (a b : List (Service × List ComponentId)) :
    seenBy service (a ++ b) = seenBy service a ++ seenBy service b := by
  unfold seenBy
  rw [List.filter_append, List.flatMap_append]

/-- A service is asked about components of the batch only, in their order. -/
theorem listed_sublist (service : Service) (batch : List ComponentId) :
    (s.listed service batch).Sublist batch := by
  cases service with
  | foundation =>
    rw [listed]
    split
    · exact List.nil_sublist _
    · exact List.Sublist.refl _
  | clearlyDefined => exact List.filter_sublist

/-- A service sees nothing but components of its batches. -/
theorem seenBy_exchanges_sublist (service : Service) (batches : List (List ComponentId)) :
    (seenBy service (s.exchanges (service, batches))).Sublist batches.flatten := by
  induction batches with
  | nil => exact List.Sublist.refl _
  | cons batch batches ih =>
    rw [exchanges_cons, seenBy_append, List.flatten_cons]
    refine List.Sublist.append ?_ ih
    have hbatch : seenBy service (s.exchanges (service, [batch])) = s.listed service batch := by
      cases hlisted : s.listed service batch with
      | nil => simp [seenBy, exchanges, hlisted]
      | cons id rest => simp [seenBy, exchanges, hlisted]
    rw [hbatch]
    exact s.listed_sublist service batch

/-- A service sees nothing of the turn of another one. -/
theorem seenBy_exchanges_of_ne {service : Service} {turn : Service × List (List ComponentId)}
    (h : turn.1 ≠ service) : seenBy service (s.exchanges turn) = [] := by
  have hnone : (s.exchanges turn).filter (·.1 = service) = [] := by
    rw [List.filter_eq_nil_iff]
    intro exchange hexchange
    obtain ⟨listed, -, rfl⟩ := List.mem_map.1 hexchange
    simpa using h
  unfold seenBy
  rw [hnone]
  rfl

/-- Where every service has one turn, with batches of different components, it sees no component
twice. -/
theorem pairwise_seenBy {turns : List (Service × List (List ComponentId))}
    (once : (turns.map (·.1)).Nodup)
    (apart : ∀ turn ∈ turns, turn.2.flatten.Pairwise fun a b => a.canonical ≠ b.canonical)
    (service : Service) :
    (seenBy service (turns.flatMap s.exchanges)).Pairwise fun a b =>
      a.canonical ≠ b.canonical := by
  induction turns with
  | nil => exact List.Pairwise.nil
  | cons turn turns ih =>
    obtain ⟨hturn, hturns⟩ := List.nodup_cons.1 once
    rw [List.flatMap_cons, seenBy_append]
    by_cases hservice : turn.1 = service
    · -- None of the other turns is one of this service.
      have hrest : seenBy service (turns.flatMap s.exchanges) = [] := by
        clear ih apart once hturns
        induction turns with
        | nil => rfl
        | cons other turns ih =>
          rw [List.map_cons, List.mem_cons, not_or] at hturn
          rw [List.flatMap_cons, seenBy_append, ih hturn.2,
            s.seenBy_exchanges_of_ne (fun h => hturn.1 (hservice.trans h.symm))]
          rfl
      rw [hrest, List.append_nil]
      obtain ⟨_, batches⟩ := turn
      subst hservice
      exact (apart _ List.mem_cons_self).sublist (s.seenBy_exchanges_sublist _ batches)
    · rw [s.seenBy_exchanges_of_ne hservice, List.nil_append]
      exact ih hturns fun other hother => apart other (List.mem_cons_of_mem _ hother)

end Settings

/-- The requests of a run of services that are all different: what they are, and that no service
sees a component twice. -/
theorem requests_of_resolve (s : Settings) (order : s.refusal? = none) {o : Options}
    (accepted : o.refusal? = none) (transport : Transport σ) (ids : List ComponentId) (world : σ) :
    ∃ providers r, s.providers transport.logged = .ok providers ∧
      resolve providers o ids (world, []) = .ok r ∧
      r.world.2.map (·.1) = (s.allExchanges r.asked).map s.request ∧
      ∀ service, (Settings.seenBy service (s.allExchanges r.asked)).Pairwise fun a b =>
        a.canonical ≠ b.canonical := by
  have hproviders : s.providers transport.logged =
      .ok (s.order.map (s.provider transport.logged)) := by
    rw [Settings.providers, order]
  have hnodup : s.order.Nodup := by
    rw [← Service.firstRepeated?_eq_none_iff]
    rw [Settings.refusal?, Option.map_eq_none_iff] at order
    exact order
  obtain ⟨r, hresolve, hlength, hworld, hasked⟩ := resolve_asks_due accepted
    (s.order.map (s.provider transport.logged)) ids (world, [])
  refine ⟨_, r, hproviders, hresolve, ?_, ?_⟩
  · rw [hworld, List.zip_map_left, List.foldl_map]
    exact s.sent_world transport (s.order.zip r.asked) (world, [])
  · intro service
    refine s.pairwise_seenBy ?_ ?_ service
    · have hlengths : s.order.length = r.asked.length := by rw [hlength, List.length_map]
      rw [List.map_fst_zip (Nat.le_of_eq hlengths)]
      exact hnodup
    · intro turn hturn
      obtain ⟨i, hi⟩ := List.mem_iff_getElem?.1 (List.of_mem_zip hturn).2
      obtain ⟨before, -, hbatches, -⟩ := hasked i turn.2 hi
      exact (Register.pairwise_due _ ids).sublist hbatches.inOrder.sublist

/-- With options that are refused no provider is asked anything. Otherwise each provider is asked,
in batches and in order, about what is due after the providers before it, and all of that unless a
fatal failure ends the resolution. So it is not asked twice about a component, nor about one that
is not valid or that an earlier provider has approved, and with nothing due it is not called. These
calls are all there are. The services of a deployment, which are all different, therefore each see
a component in at most one request. -/
theorem resolve_asks_once (providers : List (Provider σ)) (o : Options) (ids : List ComponentId)
    (world : σ) :
    (∀ refusal, o.refusal? = some refusal →
      resolve providers o ids world = .error refusal) ∧
    (o.refusal? = none →
      ∃ r, resolve providers o ids world = .ok r ∧
        (o.mode = .bestEffort → r.outcome = .complete) ∧
        r.asked.length = providers.length ∧
        r.world = (providers.zip r.asked).foldl
          (fun world turn => turn.1.worldAfter turn.2 world) world ∧
        ∀ i batches, r.asked[i]? = some batches →
          ∃ before, resolve (providers.take i) o ids world = .ok before ∧
            InBatches o.batchSize (before.register.due (ComponentId.firstOccurrences ids))
              batches ∧
            (r.outcome = .complete →
              batches.flatten = before.register.due (ComponentId.firstOccurrences ids)) ∧
            (before.register.due (ComponentId.firstOccurrences ids) = [] → batches = []) ∧
            batches.flatten.Pairwise (fun a b => a.canonical ≠ b.canonical) ∧
            ∀ id ∈ batches.flatten, id.isValid = true ∧
              ids.find? (·.canonical == id.canonical) = some id ∧
              ∀ j ≤ i, ∀ earlier, resolve (providers.take j) o ids world = .ok earlier →
                earlier.register.approves id = false) ∧
    ∀ (s : Settings) (transport : Transport σ), s.refusal? = none → o.refusal? = none →
      ∃ services r, s.providers transport.logged = .ok services ∧
        resolve services o ids (world, []) = .ok r ∧
        r.world.2.map (·.1) = (s.allExchanges r.asked).map s.request ∧
        ∀ service, (Settings.seenBy service (s.allExchanges r.asked)).Pairwise fun a b =>
          a.canonical ≠ b.canonical := by
  refine ⟨?_, ?_, ?_⟩
  · intro refusal hrefusal
    exact resolve_of_refusal hrefusal providers ids world
  · intro accepted
    obtain ⟨r, hresolve, hlength, hworld, hasked⟩ :=
      resolve_asks_due accepted providers ids world
    refine ⟨r, hresolve, ?_, hlength, hworld, ?_⟩
    · intro lenient
      obtain ⟨r', hresolve', hsettle, -⟩ := resolve_eq_settle accepted providers ids world
      rw [hresolve] at hresolve'
      obtain rfl := Except.ok.inj hresolve'
      rw [lenient, settle_bestEffort] at hsettle
      exact (congrArg Prod.fst hsettle).symm
    · intro i batches hbatches
      obtain ⟨before, hbefore, hin, hall, hearlier⟩ := hasked i batches hbatches
      refine ⟨before, hbefore, hin, hall, ?_, ?_, ?_⟩
      · intro hnothing
        rw [hnothing] at hin
        exact hin.eq_nil
      · exact (Register.pairwise_due _ ids).sublist hin.inOrder.sublist
      · intro id hid
        obtain ⟨hvalid, hfirst, hopen⟩ := Register.of_mem_due (hin.inOrder.subset hid)
        refine ⟨hvalid, hfirst, ?_⟩
        intro j hj earlier hresolved
        cases happroved : earlier.register.approves id with
        | false => rfl
        | true =>
          -- An approval by an earlier provider would still be there.
          have hstill := (hearlier j hj earlier hresolved).approves happroved
          rw [hopen] at hstill
          exact absurd hstill Bool.false_ne_true
  · intro s transport order accepted
    exact requests_of_resolve s order accepted transport ids world

/-- On a network that is down both services are asked about both components, one at a time. -/
theorem resolve_asks_once_of_two_services :
    let a : ComponentId := .located ⟨"npm", "npmjs", none, "a", "1"⟩
    let b : ComponentId := .located ⟨"npm", "npmjs", none, "b", "1"⟩
    let s : Settings := { batchSize := 1 }
    ∃ services r, s.providers (Transport.unreachable : Transport Unit).logged = .ok services ∧
      resolve services s.options [a, b, a] ((), []) = .ok r ∧
      r.world.2.map (·.1) = [(Service.foundation, [a]), (.foundation, [b]), (.clearlyDefined, [a]),
        (.clearlyDefined, [b])].map s.request := by
  intro a b s
  obtain ⟨-, -, hservices⟩ :=
    resolve_asks_once ([] : List (Provider Unit)) s.options [a, b, a] ()
  obtain ⟨services, r, hproviders, hresolve, hsent, -⟩ :=
    hservices s Transport.unreachable (by decide) (by decide)
  refine ⟨services, r, hproviders, hresolve, ?_⟩
  have hasked : r.asked = [[[a], [b]], [[a], [b]]] := by
    have h : (resolve (s.order.map (s.provider (Transport.unreachable : Transport Unit).logged))
        s.options [a, b, a] ((), [])).toOption.map (·.asked) = some [[[a], [b]], [[a], [b]]] := by
      decide +kernel
    rw [Except.ok.inj hproviders, hresolve] at h
    exact Option.some.inj h
  have hexchanges : s.allExchanges [[[a], [b]], [[a], [b]]] =
      [(.foundation, [a]), (.foundation, [b]), (.clearlyDefined, [a]), (.clearlyDefined, [b])] := by
    decide +kernel
  rw [hsent, hasked, hexchanges]

end Clearance
