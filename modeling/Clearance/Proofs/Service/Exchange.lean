import Clearance.Proofs.Component.Separation
import Clearance.Proofs.Json.Printing
import Clearance.Proofs.Service.Requests
import Clearance.Proofs.Text.Forms

/-!
# One call to a service

A call sends one request or none. If it sends one, the reply decides about all of the call: either
it fails and nothing is observed, or what is observed is all that is decoded from the reply
(`Reply.decoded`, `Exchanges`).

What a request asks about is read out of its body (`Foundation.listed?`, `ClearlyDefined.listed?`),
in the way in which a service would read it. So it says that the ids of the batch can be told from
the body as they are, not just that they were put into it.
-/

set_option autoImplicit false

namespace Clearance

universe u

variable {σ : Type u}

/-! ## Ids in requests -/

/-- The texts that a JSON array lists, if it lists nothing else. -/
def Json.Value.texts? (v : Json.Value) : Option (List String) := v.items?.bind (·.mapM (·.string?))

/-- Ids as a JSON array. -/
def idArray (ids : List ComponentId) : Json.Value := .array (ids.map fun id => .string id.canonical)

/-- The array of some ids holds their canonical texts. -/
theorem texts?_idArray (ids : List ComponentId) :
    (idArray ids).texts? = some (ids.map (·.canonical)) := by
  show (ids.map fun id => Json.Value.string id.canonical).mapM Json.Value.string? = _
  rw [mapM_eq_some_iff, List.forall₂_map_left_iff, List.forall₂_map_right_iff, List.forall₂_same]
  exact fun id _ => rfl

/-- The array of some ids is read again. -/
theorem printable_idArray (ids : List ComponentId) : Json.Printable 1 (idArray ids) := by
  apply Json.Printable.array
  intro v hv
  obtain ⟨id, -, rfl⟩ := List.mem_map.1 hv
  exact Json.printable_string 0 id.canonical

/-- The ids that a request to the foundation lists: the dependencies in the only field of its form.
-/
def Foundation.listed? (request : Request) : Option (List String) := do
  let [("request", text)] ← Text.formFields? request.body | none
  let payload ← Json.Value.read? text
  (← payload.field? "dependencies").texts?

/-- The payload about some ids is read again. -/
theorem Foundation.printable_payload (ids : List ComponentId) (project : Option String) :
    Json.Printable 2 (payload ids project) := by
  cases project with
  | none =>
    apply Json.Printable.object (List.pairwise_singleton _ _)
    exact List.forall_mem_singleton.2 (printable_idArray ids)
  | some project =>
    apply Json.Printable.object
    · have hnames : ("dependencies" : String) < "project" := by decide
      exact List.pairwise_pair.2 hnames
    · intro field hfield
      rcases List.mem_pair.1 hfield with rfl | rfl
      · exact printable_idArray ids
      · exact Json.printable_string 1 project

/-- A request to the foundation lists the ids that it is about. -/
theorem Foundation.listed?_request (service : Foundation) (ids : List ComponentId) :
    listed? (service.request ids) = some (ids.map (·.canonical)) := by
  have hread := Json.read?_print (printable_payload ids service.project) (by decide)
  have hfield : (payload ids service.project).field? "dependencies" = some (idArray ids) := by
    simp [payload, idArray, Json.Value.field?, Json.Value.fields?]
  have hfields : Text.formFields? (service.request ids).body =
      some [("request", (payload ids service.project).print)] :=
    Text.formFields?_formField _ _
  simp [listed?, hfields, hread, hfield, texts?_idArray]

/-- The ids that a request to ClearlyDefined lists. -/
def ClearlyDefined.listed? (request : Request) : Option (List String) :=
  (Json.Value.read? request.body).bind (·.texts?)

/-- A request to ClearlyDefined lists the ids that it is about. -/
theorem ClearlyDefined.listed?_request (service : ClearlyDefined) (ids : List ComponentId) :
    listed? (service.request ids) = some (ids.map (·.canonical)) := by
  have hread : Json.Value.read? (service.request ids).body = some (idArray ids) :=
    Json.read?_print (printable_idArray ids) (by decide)
  rw [listed?, hread, Option.bind_some, texts?_idArray]

/-! ## Supported ids -/

/-- The segments of the canonical text of an id. -/
def ComponentId.segments (id : ComponentId) : List String :=
  (id.canonical.toList.splitOn '/').map String.ofList

/-- The first segment of a valid id is its kind. -/
theorem ComponentId.head?_segments {c : Coordinates} (h : c.isWellFormed = true) :
    (located c).segments.head? = some c.kind := by
  have hcut : (located c).canonical.toList.splitOn '/' = c.parts := Coordinates.splitOn_canonical h
  rw [segments, hcut, Coordinates.parts, List.map_cons, String.ofList_toList, List.head?_cons]

/-- Whether ClearlyDefined knows the kind of a component can be told from its canonical text. -/
theorem ClearlyDefined.isSupported_iff {id : ComponentId} (valid : id.isValid = true) :
    isSupported id = true ↔ id.segments.head? ≠ some "p2" := by
  cases id with
  | unrecognised raw => cases valid
  | located c =>
    rw [ComponentId.head?_segments valid]
    exact bne_iff_ne

/-! ## Replies -/

/-- The answer is a failure and nothing else, or no failure and exactly the observations. -/
inductive Answer.EndsIn (a : Answer) : Except Failure (List Observation) → Prop where
  | failed {failure : Failure} (fails : a.failure? = some failure) (nothing : a.found = []) :
    a.EndsIn (.error failure)
  | observed {found : List Observation} (succeeds : a.failure? = none) (all : a.found = found) :
    a.EndsIn (.ok found)

/-- What a reply comes to, if `decode` decodes the values that are read from bodies. -/
def Reply.decoded (decode : Json.Value → Except Failure (List Observation)) :
    Reply → Except Failure (List Observation)
  | .failed => .error .transport
  | .answered status body =>
    if 200 ≤ status ∧ status < 300 then
      match Json.Value.read? (Transport.bodyText body) with
      | none => .error .malformed
      | some value => decode value
    else .error (.status status)

/-- The records that can be read, those of the approved section first. -/
def Foundation.decode (reply : Json.Value) : Except Failure (List Observation) :=
  .ok (["approved", "restricted"].flatMap fun listing =>
    (((reply.field? listing).bind (·.fields?)).getD []).filterMap fun field =>
      observation? field.2)

/-- The definitions in the order of the reply, which has to be an object. -/
def ClearlyDefined.decode (service : ClearlyDefined) :
    Json.Value → Except Failure (List Observation)
  | .object fields => .ok (fields.filterMap service.observation?)
  | _ => .error .notAnObject

/-- The successes are the statuses from 200 up to 299. -/
theorem Transport.isSuccess_iff {status : Nat} :
    isSuccess status = true ↔ 200 ≤ status ∧ status < 300 := by
  simp [isSuccess]

/-- What the foundation observes is what decoding its reply comes to. -/
theorem Foundation.decode_eq (reply : Json.Value) : decode reply = .ok (observations reply) := by
  rw [decode, observations, records, List.filterMap_flatMap, sections]
  congr 2
  funext listing
  rw [List.filterMap_map]
  rfl

/-- A reply is decoded if its status is a success and its body holds a value. -/
theorem Reply.decoded_answered (decode : Json.Value → Except Failure (List Observation))
    (status : Nat) (body : String) :
    (Reply.answered status body).decoded decode =
      match Transport.isSuccess status, Json.Value.read? (Transport.bodyText body) with
      | false, _ => .error (.status status)
      | true, none => .error .malformed
      | true, some value => decode value := by
  rw [decoded]
  cases hsuccess : Transport.isSuccess status with
  | true =>
    rw [if_pos (Transport.isSuccess_iff.1 hsuccess)]
    cases Json.Value.read? (Transport.bodyText body) with
    | none => rfl
    | some value => rfl
  | false =>
    have hfail : ¬(200 ≤ status ∧ status < 300) := by
      rw [← Transport.isSuccess_iff, hsuccess]
      exact Bool.false_ne_true
    rw [if_neg hfail]

/-- The answer of the foundation ends in what its reply is decoded to. -/
theorem Foundation.endsIn_answer (count : Nat) (reply : Reply) :
    (answer count reply).EndsIn (reply.decoded decode) := by
  cases reply with
  | failed => exact .failed rfl rfl
  | answered status body =>
    rw [Reply.decoded_answered, answer]
    cases Transport.isSuccess status with
    | false => exact .failed rfl rfl
    | true =>
      cases Json.Value.read? (Transport.bodyText body) with
      | none => exact .failed rfl rfl
      | some value =>
        dsimp only
        rw [decode_eq]
        exact .observed rfl rfl

/-- The answer of ClearlyDefined ends in what its reply is decoded to. -/
theorem ClearlyDefined.endsIn_answer (service : ClearlyDefined) (count : Nat) (reply : Reply) :
    (service.answer count reply).EndsIn (reply.decoded service.decode) := by
  cases reply with
  | failed => exact .failed rfl rfl
  | answered status body =>
    rw [Reply.decoded_answered, answer]
    cases Transport.isSuccess status with
    | false => exact .failed rfl rfl
    | true =>
      cases Json.Value.read? (Transport.bodyText body) with
      | none => exact .failed rfl rfl
      | some value =>
        cases value with
        | object fields => exact .observed rfl rfl
        | _ => exact .failed rfl rfl

/-! ## Calls -/

/-- Calls about a batch ask a service about the ids `asked`. Without any, nothing is sent or found.
Otherwise one request is sent, the same in every world; it lists exactly these ids, and its reply
decides the answer. -/
structure Exchanges (transport : Transport σ) (p : Provider (σ × List (Request × Reply)))
    (batch asked : List ComponentId) (listed? : Request → Option (List String))
    (decode : Json.Value → Except Failure (List Observation)) : Prop where
  silent : asked = [] → ∀ world log,
    (p.query batch (world, log)).2 = (world, log) ∧
      (p.query batch (world, log)).1.EndsIn (.ok [])
  once : asked ≠ [] → ∃ request, listed? request = some (asked.map (·.canonical)) ∧
    ∀ world log,
      (p.query batch (world, log)).2 =
        ((transport request world).2, log ++ [(request, (transport request world).1)]) ∧
      (p.query batch (world, log)).1.EndsIn ((transport request world).1.decoded decode)

/-- The foundation is asked about the whole batch, and not at all without an address. -/
theorem Foundation.exchanges (service : Foundation) (transport : Transport σ)
    (batch : List ComponentId) :
    Exchanges transport (service.provider transport.logged) batch
      (if Text.trim service.url = "" then [] else batch) listed? decode where
  silent := by
    intro hasked world log
    dsimp only [provider]
    split
    · exact ⟨rfl, .observed rfl rfl⟩
    · next hempty =>
      have hblank : Text.isBlankText service.url = true := by
        by_contra h
        rw [Text.isBlankText_iff] at h
        rw [if_neg h] at hasked
        exact hempty (List.isEmpty_iff.2 hasked)
      rw [if_pos hblank]
      exact ⟨rfl, .observed rfl rfl⟩
  once := by
    intro hasked
    have hblank : ¬ Text.trim service.url = "" := fun h => hasked (if_pos h)
    rw [if_neg hblank] at hasked ⊢
    refine ⟨service.request batch, service.listed?_request batch, ?_⟩
    intro world log
    have hquery : (service.provider transport.logged).query batch (world, log) =
        (answer batch.length (transport (service.request batch) world).1,
          (transport.logged (service.request batch) (world, log)).2) := by
      dsimp only [provider]
      rw [if_neg (mt List.isEmpty_iff.1 hasked), if_neg (mt Text.isBlankText_iff.1 hblank)]
      rfl
    rw [hquery]
    exact ⟨rfl, endsIn_answer _ _⟩

/-- ClearlyDefined is asked about the components of the batch whose kind it knows. -/
theorem ClearlyDefined.exchanges (service : ClearlyDefined) (transport : Transport σ)
    (batch : List ComponentId) :
    Exchanges transport (service.provider transport.logged) batch
      (batch.filter isSupported) listed? service.decode where
  silent := by
    intro hasked world log
    dsimp only [provider]
    rw [hasked]
    exact ⟨rfl, .observed rfl rfl⟩
  once := by
    intro hasked
    refine ⟨service.request (batch.filter isSupported), service.listed?_request _, ?_⟩
    intro world log
    dsimp only [provider]
    split
    · next hnone => exact absurd hnone hasked
    · exact ⟨rfl, service.endsIn_answer _ _⟩

/-- Calls about valid ids ask the foundation about all of them, unless it has no address, and
ClearlyDefined about those whose first segment is not `p2`. What is asked is sent in one request,
and either the call fails without observations or it makes all that the reply is decoded to. -/
theorem query_all_or_nothing (transport : Transport σ) (batch : List ComponentId)
    (valid : ∀ id ∈ batch, id.isValid = true) :
    (∀ service : Foundation, Exchanges transport (service.provider transport.logged) batch
      (if Text.trim service.url = "" then [] else batch) Foundation.listed? Foundation.decode) ∧
    ∀ service : ClearlyDefined, Exchanges transport (service.provider transport.logged) batch
      (batch.filter fun id => id.segments.head? ≠ some "p2") ClearlyDefined.listed?
        service.decode := by
  have hasked : (batch.filter fun id => id.segments.head? ≠ some "p2") =
      batch.filter ClearlyDefined.isSupported := by
    refine List.filter_congr fun id hid => ?_
    rw [← Bool.coe_iff_coe, decide_eq_true_iff, ClearlyDefined.isSupported_iff (valid id hid)]
  refine ⟨fun service => service.exchanges transport batch, fun service => ?_⟩
  rw [hasked]
  exact service.exchanges transport batch

/-- The answer is what a reply was decoded to, told by some of its parts. -/
theorem Answer.EndsIn.of_decoded {α : Type} {a : Answer}
    {decoded : Except Failure (List Observation)} (ends : a.EndsIn decoded)
    {view : List Observation → α} {seen : α} (h : decoded.toOption.map view = some seen) :
    a.failure? = none ∧ view a.found = seen := by
  cases ends with
  | failed fails nothing => cases h
  | observed succeeds all => exact ⟨succeeds, all ▸ Option.some.inj h⟩

/-- A foundation whose address is a blank is sent nothing. Another one is sent both ids, and all of
its reply is observed, the approved section first. ClearlyDefined is sent the package alone, and all
of its reply is observed as well. -/
theorem query_all_or_nothing_of_bundle_and_package :
    let bundle : ComponentId := .located ⟨"p2", "orbit", none, "b", "1"⟩
    let package : ComponentId := .located ⟨"npm", "npmjs", none, "x", "1"⟩
    let silent : Foundation := { url := " ", project := none }
    let foundation : Foundation := { url := Foundation.publicUrl, project := some "jetty" }
    let service : ClearlyDefined :=
      { url := ClearlyDefined.publicUrl, approved := .ofList ["MIT"], threshold := 0 }
    let records := "\x7b\"restricted\":\x7b\"a\":\x7b\"id\":\"npm/npmjs/-/x/1\"," ++
      "\"status\":\"restricted\"\x7d,\"c\":0\x7d,\"approved\":\x7b" ++
      "\"b\":\x7b\"id\":\"p2/orbit/-/b/1\",\"status\":\"approved\"\x7d\x7d\x7d"
    let definition : Json.Value := .object [("licensed", .object [("declared", .string "MIT")])]
    let definitions := (Json.Value.object [(package.canonical, definition)]).print
    let replying (body : String) : Transport Unit := fun _ world => (.answered 200 body, world)
    let unasked := (silent.provider (replying records).logged).query [bundle, package] ((), [])
    let reviewed := (foundation.provider (replying records).logged).query [bundle, package] ((), [])
    let harvested :=
      (service.provider (replying definitions).logged).query [bundle, package] ((), [])
    (unasked.2.2 = [] ∧ unasked.1.failure? = none ∧ unasked.1.found = []) ∧
      (reviewed.1.failure? = none ∧
        reviewed.1.found.map (fun o => (o.id, o.verdict)) =
          [(bundle, .approved), (package, .restricted)] ∧
        ∃ request, Foundation.listed? request = some ["p2/orbit/-/b/1", "npm/npmjs/-/x/1"] ∧
          reviewed.2.2 = [(request, .answered 200 records)]) ∧
      harvested.1.failure? = none ∧
        harvested.1.found.map (fun o => (o.id, o.verdict)) = [(package, .approved)] ∧
        ∃ request, ClearlyDefined.listed? request = some ["npm/npmjs/-/x/1"] ∧
          harvested.2.2 = [(request, .answered 200 definitions)] := by
  intro bundle package silent foundation service records definition definitions replying unasked
    reviewed harvested
  have valid : ∀ id ∈ [bundle, package], id.isValid = true := by decide
  obtain ⟨hfoundation, -⟩ := query_all_or_nothing (replying records) [bundle, package] valid
  obtain ⟨-, hservice⟩ := query_all_or_nothing (replying definitions) [bundle, package] valid
  obtain ⟨hsilent, hnothing⟩ := (hfoundation silent).silent (by decide) () []
  have haddress : (if Text.trim foundation.url = "" then [] else [bundle, package]) =
      [bundle, package] := if_neg (by decide +kernel)
  have hreviews := hfoundation foundation
  rw [haddress] at hreviews
  obtain ⟨asking, hlisted, hasked⟩ := hreviews.once (by simp)
  obtain ⟨posting, hposted, hharvested⟩ := (hservice service).once (by decide)
  have hids : [bundle, package].map (·.canonical) = ["p2/orbit/-/b/1", "npm/npmjs/-/x/1"] := by
    decide
  have hsupported : ([bundle, package].filter fun id => id.segments.head? ≠ some "p2").map
      (·.canonical) = ["npm/npmjs/-/x/1"] := by decide
  have hrecords : ((Reply.answered 200 records).decoded Foundation.decode).toOption.map
      (List.map fun o => (o.id, o.verdict)) =
        some [(bundle, .approved), (package, .restricted)] := by
    decide +kernel
  have hdefinitions : ((Reply.answered 200 definitions).decoded service.decode).toOption.map
      (List.map fun o => (o.id, o.verdict)) = some [(package, .approved)] := by
    decide +kernel
  have hempty : (Except.ok [] : Except Failure (List Observation)).toOption.map id = some [] := rfl
  have hunasked : unasked.1.failure? = none ∧ unasked.1.found = [] := hnothing.of_decoded hempty
  obtain ⟨hsent, hends⟩ := hasked () []
  obtain ⟨hsent', hends'⟩ := hharvested () []
  obtain ⟨hreviewed, hfound⟩ := hends.of_decoded hrecords
  obtain ⟨hsucceeds, hfound'⟩ := hends'.of_decoded hdefinitions
  rw [hids] at hlisted
  rw [hsupported] at hposted
  exact ⟨⟨congrArg Prod.snd hsilent, hunasked⟩,
    ⟨hreviewed, hfound, asking, hlisted, congrArg Prod.snd hsent⟩,
    hsucceeds, hfound', posting, hposted, congrArg Prod.snd hsent'⟩

end Clearance
