import Clearance.Component.Coordinates

/-!
# Component ids

A component id is either a set of coordinates or text in which no notation recognised any.
Unrecognised text stays an id so that it appears in the reports.

Ids are told apart by their canonical text alone: `sameAs` compares it, and every map and set
of ids in this library is keyed by it. An id is *valid* when it has well-formed coordinates.
-/

set_option autoImplicit false

namespace Clearance

/-- The identity of a component, as a dependency list or a provider gave it. -/
inductive ComponentId where
  /-- A component with known coordinates. -/
  | located (coordinates : Coordinates)
  /-- Text that no notation recognised. -/
  | unrecognised (text : String)
  deriving DecidableEq, Repr

namespace ComponentId

/-- The id of text that no notation recognised: the text without white space around it. -/
def ofUnrecognised (raw : String) : ComponentId := .unrecognised (Text.trim raw)

/-- The coordinates, where they are known. -/
def coordinates? : ComponentId → Option Coordinates
  | .located c => some c
  | .unrecognised _ => none

/-- The text by which ids are compared, ordered and printed. -/
def canonical : ComponentId → String
  | .located c => c.canonical
  | .unrecognised text => text

/-- The ecosystem, where it is known. -/
def kind? (id : ComponentId) : Option String := id.coordinates?.map (·.kind)

/-- Providers are asked about valid ids only: those with well-formed coordinates. -/
def isValid (id : ComponentId) : Bool := id.coordinates?.any (·.isWellFormed)

/-- Two ids name the same component when their canonical texts are equal. -/
def sameAs (a b : ComponentId) : Bool := a.canonical == b.canonical

/-- Ids are the same if their canonical texts are. -/
@[simp] theorem sameAs_iff {a b : ComponentId} : a.sameAs b = true ↔ a.canonical = b.canonical := by
  simp [sameAs]

/-- The ids of `ids` without those that an earlier one is the same as. -/
def firstOccurrences : List ComponentId → List ComponentId
  | [] => []
  | id :: ids => id :: (firstOccurrences ids).filter fun other => !other.sameAs id

/-- No two of the first occurrences are the same. -/
theorem pairwise_firstOccurrences (ids : List ComponentId) :
    (firstOccurrences ids).Pairwise fun a b => a.canonical ≠ b.canonical := by
  induction ids with
  | nil => simp [firstOccurrences]
  | cons id ids ih =>
    refine List.pairwise_cons.2 ⟨fun other hother => ?_, ih.filter _⟩
    have hdiff := (List.mem_filter.1 hother).2
    intro heq
    simp [sameAs, heq] at hdiff

/-- Every id is the same as one of the first occurrences. -/
theorem exists_mem_firstOccurrences {id : ComponentId} {ids : List ComponentId} (h : id ∈ ids) :
    ∃ first ∈ firstOccurrences ids, first.canonical = id.canonical := by
  induction ids with
  | nil => simp at h
  | cons head ids ih =>
    by_cases hsame : id.canonical = head.canonical
    · exact ⟨head, by simp [firstOccurrences], hsame.symm⟩
    · rcases List.mem_cons.1 h with rfl | hmem
      · exact absurd rfl hsame
      · obtain ⟨first, hfirst, heq⟩ := ih hmem
        refine ⟨first, ?_, heq⟩
        simp only [firstOccurrences, List.mem_cons, List.mem_filter]
        exact Or.inr ⟨hfirst, by simp [sameAs, heq, hsame]⟩

/-- `id` is the same as one of `ids`. -/
def isIn (id : ComponentId) (ids : List ComponentId) : Bool := ids.any (·.sameAs id)

end ComponentId

end Clearance
