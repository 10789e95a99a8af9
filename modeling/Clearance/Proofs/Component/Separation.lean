import Clearance.Proofs.Register
import Clearance.Proofs.Text.Parts

/-!
# Canonical texts separate components

Ids are compared by canonical texts, in which five parts are written one after the other. For
well-formed coordinates nothing is lost by this: no part of theirs holds a slash, so the slashes of
the text are the four between the parts (`Coordinates.splitOn_canonical`), and coordinates with
parts that hold a slash write more of them.

The scope alone is not written as it is given. An absent scope and the scope `-` stand for the same
thing, and both are written `-`; coordinates that differ in nothing else agree
(`Coordinates.Agree`). So registers and lists of first occurrences keep the components apart whose
coordinates are well formed and do not agree.
-/

set_option autoImplicit false

namespace Clearance

/-! ## Coordinates -/

namespace Coordinates

/-- The parts of the canonical text. -/
def parts (c : Coordinates) : List (List Char) :=
  [c.kind.toList, c.source.toList, c.scopeText.toList, c.name.toList, c.version.toList]

/-- The canonical text is the five parts with slashes between them. -/
theorem toList_canonical (c : Coordinates) : c.canonical.toList = ['/'].intercalate c.parts := by
  have hslash : "/".toList = ['/'] := rfl
  simp only [canonical, parts, String.toList_append, hslash, List.intercalate_cons_cons,
    List.intercalate_singleton, List.append_assoc]

/-- An absent scope is written as `-`. -/
theorem scopeText_of (kind source : String) (scope : Option String) (name version : String) :
    (Coordinates.of kind source scope name version).scopeText = scope.getD absentScope := by
  unfold scopeText of
  cases scope with
  | none => rfl
  | some scope =>
    by_cases h : scope = absentScope
    · simp [Option.filter, h]
    · simp [Option.filter, h]

/-- The stand-in for an absent scope is a segment. -/
theorem isSegment_scopeText (c : Coordinates) : isSegment c.scopeText = c.scope.all isSegment := by
  unfold scopeText
  cases c.scope with
  | none => decide
  | some scope => rfl

/-- Coordinates are well formed exactly if all parts of their canonical text are segments. -/
theorem isWellFormed_iff_parts {c : Coordinates} :
    c.isWellFormed = true ↔ ∀ part ∈ c.parts, isSegment (String.ofList part) = true := by
  simp only [isWellFormed, parts, ← isSegment_scopeText, Bool.and_eq_true, List.forall_mem_cons,
    List.not_mem_nil, false_imp_iff, implies_true, and_true, String.ofList_toList]
  constructor
  · rintro ⟨⟨⟨⟨hscope, hkind⟩, hsource⟩, hname⟩, hversion⟩
    exact ⟨hkind, hsource, hscope, hname, hversion⟩
  · rintro ⟨hkind, hsource, hscope, hname, hversion⟩
    exact ⟨⟨⟨⟨hscope, hkind⟩, hsource⟩, hname⟩, hversion⟩

/-- Coordinates of one component: equal but for an absent scope, which is the scope `-`. -/
structure Agree (c d : Coordinates) : Prop where
  kind : c.kind = d.kind
  source : c.source = d.source
  scope : c.scopeText = d.scopeText
  name : c.name = d.name
  version : c.version = d.version

/-- Coordinates agree exactly if their parts are the same. -/
theorem agree_iff_parts {c d : Coordinates} : c.Agree d ↔ c.parts = d.parts := by
  simp only [parts, List.cons.injEq, String.toList_inj, and_true]
  constructor
  · rintro ⟨hkind, hsource, hscope, hname, hversion⟩
    exact ⟨hkind, hsource, hscope, hname, hversion⟩
  · rintro ⟨hkind, hsource, hscope, hname, hversion⟩
    exact ⟨hkind, hsource, hscope, hname, hversion⟩

/-- A part that is well formed holds no slash. -/
theorem slash_not_mem_of_isSegment {part : List Char}
    (h : isSegment (String.ofList part) = true) : '/' ∉ part := by
  simp only [isSegment, String.toList_ofList, Bool.and_eq_true, List.all_eq_true] at h
  intro hmem
  simpa using (h.2 '/' hmem).1

/-- Cut at its slashes, the canonical text of well-formed coordinates is their parts. -/
theorem splitOn_canonical {c : Coordinates} (h : c.isWellFormed = true) :
    c.canonical.toList.splitOn '/' = c.parts := by
  rw [toList_canonical]
  refine List.splitOn_intercalate '/' (fun part hpart => ?_) (List.cons_ne_nil _ _)
  exact slash_not_mem_of_isSegment (isWellFormed_iff_parts.1 h part hpart)

/-- Only one list of parts leads to the canonical text of well-formed coordinates, even among
coordinates that are not well formed. -/
theorem parts_eq_of_canonical_eq {c d : Coordinates} (h : c.isWellFormed = true)
    (same : c.canonical = d.canonical) : c.parts = d.parts := by
  have hcut := splitOn_canonical h
  rw [same, toList_canonical] at hcut
  have hlength : ((['/'].intercalate d.parts).splitOn '/').length = d.parts.length := by
    rw [hcut]
    rfl
  rw [← hcut]
  exact (splitOn_intercalate_of_length (List.cons_ne_nil _ _) hlength).1

/-- Coordinates that agree have the same canonical text. -/
theorem canonical_eq_of_agree {c d : Coordinates} (h : c.Agree d) : c.canonical = d.canonical := by
  rw [← String.toList_inj, toList_canonical, toList_canonical, agree_iff_parts.1 h]

/-- Coordinates with the canonical text of well-formed ones are well formed and agree with them. -/
theorem canonical_eq_iff {c d : Coordinates} (h : c.isWellFormed = true) :
    c.canonical = d.canonical ↔ d.isWellFormed = true ∧ c.Agree d := by
  constructor
  · intro same
    have hparts := parts_eq_of_canonical_eq h same
    refine ⟨isWellFormed_iff_parts.2 ?_, agree_iff_parts.2 hparts⟩
    rw [← hparts]
    exact isWellFormed_iff_parts.1 h
  · rintro ⟨-, hagree⟩
    exact canonical_eq_of_agree hagree

/-- The coordinates with the scope `-` taken for an absent one. -/
def normalised (c : Coordinates) : Coordinates := .of c.kind c.source c.scope c.name c.version

/-- Coordinates agree with their normal form. -/
theorem agree_normalised (c : Coordinates) : c.Agree c.normalised where
  kind := rfl
  source := rfl
  scope := (scopeText_of ..).symm
  name := rfl
  version := rfl

/-- Of coordinates that agree, either both are well formed or neither is. -/
theorem isWellFormed_congr {c d : Coordinates} (h : c.Agree d) :
    c.isWellFormed = d.isWellFormed := by
  rw [Bool.eq_iff_iff, isWellFormed_iff_parts, isWellFormed_iff_parts, agree_iff_parts.1 h]

end Coordinates

/-! ## Ids -/

namespace ComponentId

/-- The ids that coordinates are made into: with the scope as it is given, or normalised. -/
inductive MadeOf (c : Coordinates) : ComponentId → Prop where
  | asGiven : MadeOf c (.located c)
  | normalised : MadeOf c (.located c.normalised)

/-- An id that is made of coordinates has their canonical text. -/
theorem MadeOf.canonical_eq {c : Coordinates} {id : ComponentId} (h : MadeOf c id) :
    id.canonical = c.canonical := by
  cases h with
  | asGiven => rfl
  | normalised => exact (Coordinates.canonical_eq_of_agree c.agree_normalised).symm

/-- An id that is made of coordinates is valid exactly if they are well formed. -/
theorem MadeOf.isValid_eq {c : Coordinates} {id : ComponentId} (h : MadeOf c id) :
    id.isValid = c.isWellFormed := by
  cases h with
  | asGiven => rfl
  | normalised => exact (Coordinates.isWellFormed_congr c.agree_normalised).symm

/-- Ids that are all different are their own first occurrences. -/
theorem firstOccurrences_of_pairwise {ids : List ComponentId}
    (distinct : ids.Pairwise fun a b => a.canonical ≠ b.canonical) :
    firstOccurrences ids = ids := by
  induction ids with
  | nil => rfl
  | cons id ids ih =>
    obtain ⟨hid, hids⟩ := List.pairwise_cons.1 distinct
    rw [firstOccurrences, ih hids]
    congr 1
    rw [List.filter_eq_self]
    intro other hother
    simpa [sameAs] using (hid other hother).symm

/-- A valid id has the canonical text of another one only if their coordinates agree. -/
theorem MadeOf.canonical_eq_iff {c d : Coordinates} {a b : ComponentId} (ha : MadeOf c a)
    (hb : MadeOf d b) (valid : a.isValid = true) :
    a.canonical = b.canonical ↔ d.isWellFormed = true ∧ c.Agree d := by
  rw [ha.isValid_eq] at valid
  rw [ha.canonical_eq, hb.canonical_eq, Coordinates.canonical_eq_iff valid]

/-- Valid ids are the same exactly if their coordinates agree, and no valid id is the same as one
made of coordinates that are not well formed. So among valid ids whose coordinates do not agree
each is its own first occurrence and has an entry of its own. -/
theorem sameAs_iff_agree :
    (∀ c d a b, MadeOf c a → MadeOf d b → a.isValid = true → b.isValid = true →
      (a.sameAs b = true ↔ c.Agree d)) ∧
    (∀ c d a b, MadeOf c a → MadeOf d b → a.isValid = true → d.isWellFormed = false →
      a.sameAs b = false) ∧
    ∀ ids : List ComponentId, (∀ id ∈ ids, id.isValid = true) →
      ids.Pairwise (fun a b => ∃ c d, MadeOf c a ∧ MadeOf d b ∧ ¬ c.Agree d) →
        firstOccurrences ids = ids ∧
          ∀ id ∈ ids, (Register.ofIds ids).find? id.canonical = some { id } := by
  refine ⟨?_, ?_, ?_⟩
  · intro c d a b ha hb valid valid'
    rw [hb.isValid_eq] at valid'
    rw [sameAs_iff, ha.canonical_eq_iff hb valid]
    exact and_iff_right valid'
  · intro c d a b ha hb valid illFormed
    rw [sameAs, beq_eq_false_iff_ne]
    intro same
    rw [((ha.canonical_eq_iff hb valid).1 same).1] at illFormed
    cases illFormed
  · intro ids valid apart
    have hdistinct : ids.Pairwise fun a b => a.canonical ≠ b.canonical := by
      refine apart.imp_of_mem ?_
      rintro a b ha - ⟨c, d, hc, hd, hdisagree⟩ same
      exact hdisagree ((hc.canonical_eq_iff hd (valid a ha)).1 same).2
    refine ⟨firstOccurrences_of_pairwise hdistinct, fun id hid => ?_⟩
    rw [Register.find?_ofIds hdistinct, find?_of_mem hdistinct hid]
    rfl

/-- Two spellings of an absent scope are one component; a slash inside of a part or a further scope
makes another one. -/
theorem sameAs_iff_agree_of_absent_scope :
    let bare : Coordinates := ⟨"npm", "npmjs", none, "a", "1"⟩
    let dashed : Coordinates := ⟨"npm", "npmjs", some "-", "a", "1"⟩
    let inScope : Coordinates := ⟨"npm", "npmjs", some "@b", "a", "1"⟩
    let slashed : Coordinates := ⟨"npm", "npmjs", none, "a/1", ""⟩
    (located bare).sameAs (located dashed) = true ∧
      (located bare).sameAs (located slashed) = false ∧
      firstOccurrences [located bare, located inScope] = [located bare, located inScope] := by
  intro bare dashed inScope slashed
  obtain ⟨hsame, hnever, hkept⟩ := sameAs_iff_agree
  refine ⟨?_, ?_, ?_⟩
  · refine (hsame bare dashed _ _ .asGiven .asGiven (by decide) (by decide)).2 ?_
    exact ⟨rfl, rfl, rfl, rfl, rfl⟩
  · exact hnever bare slashed _ _ .asGiven .asGiven (by decide) (by decide)
  · refine (hkept [located bare, located inScope] (by decide) ?_).1
    have hdisagree : ¬ bare.Agree inScope := fun h => absurd h.scope (by decide)
    refine List.pairwise_cons.2 ⟨?_, List.pairwise_singleton _ _⟩
    intro other hother
    obtain rfl := List.mem_singleton.1 hother
    exact ⟨bare, inScope, .asGiven, .asGiven, hdisagree⟩

end ComponentId

end Clearance
