import Clearance.Proofs.Component.Canonical
import Clearance.Service.ClearlyDefined

/-!
# Which ids can be answered

A service is told the canonical text of an id and answers under the same text, which is then read
in the five-part notation. The other notations allow more characters than this one, so a valid id
can have a canonical text that no service can answer under: `a~b@1` is one.

An id can be answered exactly if its parts keep to the characters of the five-part notation
(`FivePart.admits`), and then the answer is read as one about this id, with the same coordinates.
Ids that were themselves written in the five-part notation can always be answered.
-/

set_option autoImplicit false

namespace Clearance

/-! ## Ids from dependency lists -/

/-- No notation leaves the scope `-` as it is. -/
theorem Notation.normalised_of_read {n : Notation} {s : String} {c : Coordinates}
    (h : n.read s = some c) : c.normalised = c := by
  cases n with
  | fivePart =>
    obtain ⟨kind, source, scope, name, version, -, -, rfl⟩ := FivePart.exists_of_read h
    exact Coordinates.normalised_of ..
  | packageUrl =>
    simp only [read, PackageUrl.read, Option.bind_eq_bind, Option.bind_eq_some_iff] at h
    obtain ⟨body, -, ⟨path, versionPart⟩, -, version, -, kindPart, -, decoded, -, ⟨scope, name⟩, -,
      h⟩ := h
    split at h
    · cases h
    · obtain rfl := Option.some.inj h
      exact Coordinates.normalised_of ..
  | maven =>
    simp only [read, Maven.read] at h
    split at h
    · cases h
    · obtain rfl := Option.some.inj h
      exact Coordinates.normalised_of ..
  | npm =>
    have hnamed : ∀ scope cs, Npm.readNamed scope cs = some c → c.normalised = c := by
      intro scope cs h
      simp only [Npm.readNamed, Option.bind_eq_bind, Option.bind_eq_some_iff] at h
      obtain ⟨⟨name, version⟩, -, h⟩ := h
      split at h
      · obtain rfl := Option.some.inj h
        exact Coordinates.normalised_of ..
      · cases h
    simp only [read, Npm.read] at h
    split at h
    · simp only [Option.bind_eq_bind, Option.bind_eq_some_iff] at h
      obtain ⟨⟨scope, rest⟩, -, h⟩ := h
      split at h
      · exact hnamed _ _ h
      · cases h
    · exact hnamed _ _ h

namespace ComponentId

/-- A valid id of a dependency list was read in some notation. -/
theorem exists_located_of_isValid_read {s : String} (valid : (read s).isValid = true) :
    ∃ c, read s = .located c ∧ c.isWellFormed = true ∧ c.normalised = c := by
  cases hread : Notation.all.findSome? (·.read s) with
  | some c =>
    have hlocated : read s = .located c := by
      unfold read
      rw [hread]
    obtain ⟨n, -, hn⟩ := List.exists_of_findSome?_eq_some hread
    refine ⟨c, hlocated, ?_, Notation.normalised_of_read hn⟩
    rw [hlocated] at valid
    exact valid
  | none =>
    have hunrecognised : read s = .ofUnrecognised s := by
      unfold read
      rw [hread]
    rw [hunrecognised] at valid
    cases valid

end ComponentId

/-! ## Answers under canonical texts -/

/-- The id of a record of the foundation is the id that its text denotes. -/
theorem Foundation.map_id_observation? {record : Json.Value} {text : String}
    (h : record.field? "id" = some (.string text)) :
    (observation? record).map (·.id) = ComponentId.ofCanonical? text := by
  unfold observation?
  rw [h]
  cases hid : ComponentId.ofCanonical? text with
  | none => simp [Json.Value.string?, hid]
  | some id => simp [Json.Value.string?, hid]

namespace ComponentId

/-- Answers under the canonical text of a valid id are read as answers about this id, if the
five-part notation admits its parts, and cannot be read otherwise. The parts of ids that were
written in this notation are always admitted. -/
theorem answerable_iff_admits {s : String} (valid : (read s).isValid = true) :
    ∃ c, read s = .located c ∧
      (FivePart.admits c = true →
        ofCanonical? (read s).canonical = some (read s) ∧
        (∀ record : Json.Value, record.field? "id" = some (.string (read s).canonical) →
          ∃ o, Foundation.observation? record = some o ∧ o.id = read s) ∧
        ∀ (service : ClearlyDefined) (definition : Json.Value),
          ∃ o, service.observation? ((read s).canonical, definition) = some o ∧ o.id = read s ∧
            o = service.observation (read s) definition) ∧
      (FivePart.admits c = false →
        ofCanonical? (read s).canonical = none ∧
        (∀ record : Json.Value, record.field? "id" = some (.string (read s).canonical) →
          Foundation.observation? record = none) ∧
        ∀ (service : ClearlyDefined) (definition : Json.Value),
          service.observation? ((read s).canonical, definition) = none) ∧
      ((FivePart.read s).isSome = true → FivePart.admits c = true) := by
  obtain ⟨c, hlocated, hwell, hnormal⟩ := exists_located_of_isValid_read valid
  have hread : FivePart.read c.canonical = if FivePart.admits c then some c else none := by
    rw [FivePart.read_canonical hwell, hnormal]
  have hid : ofCanonical? (located c).canonical =
      if FivePart.admits c then some (located c) else none := by
    rw [ofCanonical?, canonical, hread]
    split <;> rfl
  rw [hlocated]
  refine ⟨c, rfl, ?_, ?_, ?_⟩
  · intro hadmits
    rw [hadmits, if_pos rfl] at hid
    refine ⟨hid, ?_, ?_⟩
    · intro record hrecord
      have hmap := Foundation.map_id_observation? hrecord
      rw [hid, Option.map_eq_some_iff] at hmap
      exact hmap
    · intro service definition
      refine ⟨service.observation (located c) definition, ?_, rfl, rfl⟩
      rw [ClearlyDefined.observation?, hid, Option.map_some]
  · intro hrefuses
    rw [hrefuses, if_neg Bool.false_ne_true] at hid
    refine ⟨hid, ?_, ?_⟩
    · intro record hrecord
      have hmap := Foundation.map_id_observation? hrecord
      rwa [hid, Option.map_eq_none_iff] at hmap
    · intro service definition
      rw [ClearlyDefined.observation?, hid, Option.map_none]
  · intro hsome
    -- The canonical text is the text itself, which the notation has recognised.
    obtain ⟨d, hd⟩ := Option.isSome_iff_exists.1 hsome
    obtain rfl : d = c := by
      rw [read_of_first [] rfl (by simp) hd] at hlocated
      exact located.inj hlocated
    rw [FivePart.canonical_of_read hd, FivePart.read_trim, hd] at hread
    by_contra hrefuses
    rw [if_neg hrefuses] at hread
    cases hread

/-- A package with a tilde in its name is valid, but no answer about it can be read. -/
theorem not_answerable_of_tilde :
    (read "a~b@1").isValid = true ∧ ofCanonical? (read "a~b@1").canonical = none ∧
      ∀ (service : ClearlyDefined) (definition : Json.Value),
        service.event ((read "a~b@1").canonical, definition) =
          .definitionUnreadable (read "a~b@1").canonical := by
  have hnone : ofCanonical? (read "a~b@1").canonical = none := by decide +kernel
  refine ⟨by decide +kernel, hnone, ?_⟩
  intro service definition
  rw [ClearlyDefined.event, ClearlyDefined.observation?, hnone, Option.map_none]

/-- A Maven artifact is answerable, and an answer about it keeps the coordinates of the list. -/
theorem answerable_iff_admits_of_artifact :
    (read "junit:junit:jar:4.13.2:test").isValid = true ∧
      ofCanonical? (read "junit:junit:jar:4.13.2:test").canonical =
        some (read "junit:junit:jar:4.13.2:test") := by
  have hvalid : (read "junit:junit:jar:4.13.2:test").isValid = true := by decide +kernel
  refine ⟨hvalid, ?_⟩
  obtain ⟨c, hlocated, hanswered, -⟩ := answerable_iff_admits hvalid
  have hread : read "junit:junit:jar:4.13.2:test" =
      .located ⟨"maven", "mavencentral", some "junit", "junit", "4.13.2"⟩ := by decide +kernel
  rw [hread] at hlocated
  obtain rfl := located.inj hlocated
  exact (hanswered (by decide +kernel)).1

end ComponentId

end Clearance
