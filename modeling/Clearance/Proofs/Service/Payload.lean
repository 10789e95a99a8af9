import Clearance.Proofs.Service.Exchange

/-!
# What a request to the foundation says

A body that is posted to the foundation is read by a service in two steps: the one field of a form,
and in it the object with the ids of the batch and the project. Whatever characters these hold, the
object says exactly this and nothing else (`Foundation.posted_says`). So calls that post the same
body are about the same ids, on behalf of the same project.
-/

set_option autoImplicit false

namespace Clearance.Foundation

/-- A call about the ids posts this body, in any world. -/
def Posts (service : Foundation) (ids : List ComponentId) (body : String) : Prop :=
  ∀ (σ : Type) (transport : Transport σ) (world : σ) (log : List (Request × Reply)),
    ∃ request reply, request.body = body ∧
      ((service.provider transport.logged).query ids (world, log)).2.2 = log ++ [(request, reply)]

/-- The fields of an object say that these ids are asked about, on behalf of the project if there is
one, and nothing else. -/
structure Says (fields : List (String × Json.Value)) (dependencies : List String)
    (project : Option String) : Prop where
  names : ∀ name, name ∈ fields.map (·.1) ↔
    name = "dependencies" ∨ name = "project" ∧ project.isSome = true
  once : (fields.map (·.1)).Nodup
  dependencies : (fields.lookup "dependencies").bind Json.Value.texts? = some dependencies
  project : fields.lookup "project" = project.map Json.Value.string

/-- An object says one thing only. -/
theorem Says.unique {fields : List (String × Json.Value)} {dependencies others : List String}
    {project other : Option String} (h : Says fields dependencies project)
    (h' : Says fields others other) : others = dependencies ∧ other = project := by
  refine ⟨Option.some.inj (h'.dependencies.symm.trans h.dependencies), ?_⟩
  have hproject := h'.project.symm.trans h.project
  exact Option.map_injective (fun _ _ => Json.Value.string.inj) hproject

/-- The fields of the object that is posted. -/
def payloadFields (ids : List ComponentId) (project : Option String) :
    List (String × Json.Value) :=
  ("dependencies", idArray ids) ::
    (project.map fun p => ("project", Json.Value.string p)).toList

/-- The payload says which ids are asked about, and for which project. -/
theorem says_payloadFields (ids : List ComponentId) (project : Option String) :
    Says (payloadFields ids project) (ids.map (·.canonical)) project := by
  cases project with
  | none =>
    refine ⟨fun name => ?_, List.nodup_singleton _, ?_, rfl⟩
    · simp [payloadFields]
    · exact texts?_idArray ids
  | some project =>
    refine ⟨fun name => ?_, ?_, ?_, rfl⟩
    · simp [payloadFields]
    · simp [payloadFields]
    · exact texts?_idArray ids

/-- A body is posted exactly where there is something to ask, and someone to be asked. -/
theorem posts_iff (service : Foundation) (ids : List ComponentId) (body : String) :
    service.Posts ids body ↔
      ids ≠ [] ∧ Text.trim service.url ≠ "" ∧ body = (service.request ids).body := by
  by_cases hids : ids = []
  · subst hids
    refine iff_of_false (fun h => ?_) (fun h => h.1 rfl)
    obtain ⟨_, _, -, hlog⟩ := h Unit Transport.unreachable () []
    simp [provider] at hlog
  · by_cases hblank : Text.trim service.url = ""
    · refine iff_of_false (fun h => ?_) (fun h => h.2.1 hblank)
      obtain ⟨_, _, -, hlog⟩ := h Unit Transport.unreachable () []
      simp [provider, hids, Text.isBlankText_iff.2 hblank] at hlog
    · have hlog (σ : Type) (transport : Transport σ) (world : σ) (log : List (Request × Reply)) :
          ((service.provider transport.logged).query ids (world, log)).2.2 =
            log ++ [(service.request ids, (transport (service.request ids) world).1)] := by
        dsimp only [provider]
        rw [if_neg (mt List.isEmpty_iff.1 hids), if_neg (mt Text.isBlankText_iff.1 hblank)]
        rfl
      constructor
      · intro h
        obtain ⟨request, reply, rfl, hposted⟩ := h Unit Transport.unreachable () []
        rw [hlog] at hposted
        have hrequest := congrArg Prod.fst (List.singleton_inj.1 hposted)
        exact ⟨hids, hblank, congrArg Request.body hrequest.symm⟩
      · rintro ⟨-, -, rfl⟩ σ transport world log
        exact ⟨_, _, rfl, hlog σ transport world log⟩

/-- A call about some ids posts a form with one field, `request`. Its text is a JSON object that
says which ids are asked about, in their order, and for which project. Any other call that posts the
same body says the same. -/
theorem posted_says (service : Foundation) {ids : List ComponentId} (some_ids : ids ≠ [])
    (configured : Text.trim service.url ≠ "") :
    ∃ body text fields, service.Posts ids body ∧
      Text.formFields? body = some [("request", text)] ∧
      Json.Value.read? text = some (.object fields) ∧
      Says fields (ids.map (·.canonical)) service.project ∧
      ∀ (other : Foundation) (ids' : List ComponentId), other.Posts ids' body →
        ids'.map (·.canonical) = ids.map (·.canonical) ∧ other.project = service.project := by
  have hform (service : Foundation) (ids : List ComponentId) :
      Text.formFields? (service.request ids).body =
        some [("request", (payload ids service.project).print)] :=
    Text.formFields?_formField _ _
  have hread (service : Foundation) (ids : List ComponentId) :
      Json.Value.read? (payload ids service.project).print =
        some (.object (payloadFields ids service.project)) :=
    Json.read?_print (printable_payload ids service.project) (by decide)
  refine ⟨(service.request ids).body, (payload ids service.project).print,
    payloadFields ids service.project, (posts_iff _ _ _).2 ⟨some_ids, configured, rfl⟩,
    hform service ids, hread service ids, says_payloadFields ids service.project, ?_⟩
  intro other ids' hposts
  obtain ⟨-, -, hbody⟩ := (posts_iff _ _ _).1 hposts
  have htext : (payload ids' other.project).print = (payload ids service.project).print := by
    have hsame := hform service ids
    rw [hbody, hform other ids'] at hsame
    exact (Prod.mk.inj (List.singleton_inj.1 (Option.some.inj hsame))).2
  have hfields : payloadFields ids' other.project = payloadFields ids service.project := by
    have hsame := hread service ids
    rw [← htext, hread other ids'] at hsame
    exact Json.Value.object.inj (Option.some.inj hsame)
  have hsays := says_payloadFields ids' other.project
  rw [hfields] at hsays
  exact (says_payloadFields ids service.project).unique hsays

/-- Quotes, control characters and the signs of a form come back as they are. -/
theorem posted_says_of_signs :
    let id : ComponentId := .unrecognised "a&b=\"c\",]\\+%41\n"
    let project := "\"p\x7d\"&request=1 + \x00é%"
    let service : Foundation := { url := publicUrl, project := some project }
    ∃ body text fields, service.Posts [id] body ∧
      Text.formFields? body = some [("request", text)] ∧
      Json.Value.read? text = some (.object fields) ∧
      (fields.lookup "dependencies").bind Json.Value.texts? = some ["a&b=\"c\",]\\+%41\n"] ∧
      fields.lookup "project" = some (.string project) ∧
      ¬ Posts { service with project := none } [id] body := by
  intro id project service
  have hurl : Text.trim publicUrl ≠ "" := by decide +kernel
  obtain ⟨body, text, fields, hposts, hform, hread, hsays, hother⟩ :=
    service.posted_says (List.cons_ne_nil id []) hurl
  refine ⟨body, text, fields, hposts, hform, hread, hsays.dependencies, hsays.project, ?_⟩
  intro h
  cases (hother _ [id] h).2

end Clearance.Foundation
