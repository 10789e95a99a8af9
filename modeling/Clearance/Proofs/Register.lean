import Clearance.Register

/-!
# Registers and ids seen from outside

What the operations of a resolution do to the views that its laws are stated in.

* A register is seen through `find?`. The register of ids holds an entry without observations for
  each of them, and merging a call only appends to the entries of the call's own components
  (`find?_merge`). Registers that arise so from one another are related by `Extends`.
* A list of ids is seen through the first id with a canonical text, which is also what
  `firstOccurrences` keeps (`find?_firstOccurrences`).
-/

set_option autoImplicit false

namespace Clearance

/-! ## Ids -/

namespace ComponentId

/-- An id is in a list if one with the same canonical text is. -/
theorem isIn_iff {id : ComponentId} {ids : List ComponentId} :
    id.isIn ids = true ↔ ∃ other ∈ ids, other.canonical = id.canonical := by
  simp [isIn]

/-- Ids with the same canonical text are in the same lists. -/
theorem isIn_congr {a b : ComponentId} (h : a.canonical = b.canonical) (ids : List ComponentId) :
    a.isIn ids = b.isIn ids := by
  simp [isIn, sameAs, h]

/-- The first occurrences hold the first id with each canonical text. -/
theorem find?_firstOccurrences (ids : List ComponentId) (key : String) :
    (firstOccurrences ids).find? (·.canonical == key) = ids.find? (·.canonical == key) := by
  induction ids with
  | nil => rfl
  | cons id ids ih =>
    by_cases hkey : id.canonical = key
    · simp [firstOccurrences, hkey]
    · -- The ids dropped with `id` are not the ones that are looked for.
      have hother : (fun other : ComponentId =>
          decide ((!other.sameAs id) = true ∧ (other.canonical == key) = true)) =
          fun other => other.canonical == key := by
        funext other
        by_cases h : other.canonical = key
        · simp [sameAs, h, Ne.symm hkey]
        · simp [h]
      rw [firstOccurrences, List.find?_cons_of_neg (by simpa using hkey),
        List.find?_cons_of_neg (by simpa using hkey), List.find?_filter, hother, ih]

/-- Among ids that are all different, an id is the first with its canonical text. -/
theorem find?_of_mem {ids : List ComponentId}
    (distinct : ids.Pairwise fun a b => a.canonical ≠ b.canonical) {id : ComponentId}
    (h : id ∈ ids) : ids.find? (·.canonical == id.canonical) = some id := by
  induction ids with
  | nil => simp at h
  | cons head ids ih =>
    obtain ⟨hhead, htail⟩ := List.pairwise_cons.1 distinct
    rcases List.mem_cons.1 h with rfl | hmem
    · simp
    · rw [List.find?_cons_of_neg (by simpa using hhead id hmem)]
      exact ih htail hmem

/-- Among ids that are all different, ids with one canonical text are one id. -/
theorem eq_of_canonical_eq {ids : List ComponentId}
    (distinct : ids.Pairwise fun a b => a.canonical ≠ b.canonical) {a b : ComponentId}
    (ha : a ∈ ids) (hb : b ∈ ids) (h : a.canonical = b.canonical) : a = b := by
  have hfind := find?_of_mem distinct ha
  rw [h, find?_of_mem distinct hb] at hfind
  exact (Option.some.inj hfind).symm

end ComponentId

/-! ## Entries -/

namespace Entry

/-- The entry with more observations at the end. -/
def addAll (e : Entry) (more : List Observation) : Entry :=
  { e with observations := e.observations ++ more }

/-- Without observations the entry stays as it is. -/
@[simp] theorem addAll_nil (e : Entry) : e.addAll [] = e := by
  simp [addAll]

/-- Observations that are added in two goes could be added in one. -/
@[simp] theorem addAll_addAll (e : Entry) (a b : List Observation) :
    (e.addAll a).addAll b = e.addAll (a ++ b) := by
  simp [addAll]

/-- What is added stands behind the earlier observations. -/
@[simp] theorem observations_addAll (e : Entry) (more : List Observation) :
    (e.addAll more).observations = e.observations ++ more := rfl

/-- One observation is added as a list of one is. -/
theorem add_eq_addAll (e : Entry) (o : Observation) : e.add o = e.addAll [o] := rfl

/-- An entry is approved exactly if one of its observations is, as a test. -/
theorem status_eq_approved_iff (e : Entry) :
    e.status = .approved ↔ e.observations.any (·.verdict == .approved) = true := by
  unfold status
  split
  · next h => exact iff_of_true rfl h
  · next h =>
    refine iff_of_false ?_ h
    split <;> decide

end Entry

/-! ## Registers -/

namespace Register

/-- The rows are what can be looked up. -/
theorem mem_rows_iff {r : Register} {key : String} {e : Entry} :
    (key, e) ∈ r.rows ↔ r.find? key = some e := by
  obtain ⟨rows, increasing⟩ := r
  simp only [find?, Option.map_eq_some_iff]
  constructor
  · intro h
    refine ⟨(key, e), ?_, rfl⟩
    induction rows with
    | nil => simp at h
    | cons first rows ih =>
      obtain ⟨hfirst, hrows⟩ := List.pairwise_cons.1 increasing
      rcases List.mem_cons.1 h with rfl | hmem
      · simp
      · have hne : first.1 ≠ key := by
          rintro rfl
          exact String.lt_irrefl _ (hfirst (first.1, e) hmem)
        rw [List.find?_cons_of_neg (by simpa using hne)]
        exact ih hrows hmem
  · rintro ⟨row, hrow, rfl⟩
    have hkey : row.1 = key := by simpa using List.find?_some hrow
    exact hkey ▸ List.mem_of_find?_eq_some hrow

/-- The register of distinct ids holds an empty entry for each. -/
theorem find?_ofIds {ids : List ComponentId}
    (distinct : ids.Pairwise fun a b => a.canonical ≠ b.canonical) (key : String) :
    (ofIds ids).find? key = (ids.find? (·.canonical == key)).map fun id => { id } := by
  suffices h : ∀ r : Register,
      (ids.foldl (fun r id => r.insert id.canonical { id }) r).find? key =
        ((ids.find? (·.canonical == key)).map fun id => ({ id } : Entry)).or (r.find? key) by
    rw [ofIds, h]
    simp
  induction ids with
  | nil => intro r; simp
  | cons id ids ih =>
    intro r
    obtain ⟨hid, hids⟩ := List.pairwise_cons.1 distinct
    rw [List.foldl_cons, ih hids, find?_insert]
    by_cases hkey : id.canonical = key
    · have hnone : ids.find? (·.canonical == key) = none := by
        rw [List.find?_eq_none]
        intro other hother
        simpa [hkey] using (hid other hother).symm
      simp [hkey, hnone]
    · rw [List.find?_cons_of_neg (by simpa using hkey), if_neg (Ne.symm hkey)]

/-- A recorded observation stands under its own key, if that is there, and nowhere else. -/
theorem find?_record (r : Register) (o : Observation) (key : String) :
    (r.record o).find? key =
      (r.find? key).map (·.addAll (if o.id.canonical = key then [o] else [])) := by
  rw [record, find?_alter]
  by_cases hkey : key = o.id.canonical
  · simp [hkey, Entry.add_eq_addAll]
  · simp [hkey, Ne.symm hkey]

/-- Merging a call appends what it found about its own components, and changes nothing else. -/
theorem find?_merge (r : Register) (batch : List ComponentId) (found : List Observation)
    (key : String) :
    (r.merge batch found).find? key =
      (r.find? key).map
        (·.addAll (found.filter fun o => o.id.isIn batch && o.id.canonical == key)) := by
  unfold merge
  induction found generalizing r with
  | nil => simp
  | cons o found ih =>
    cases hbatch : o.id.isIn batch with
    | false =>
      have ih := ih r
      simpa [hbatch] using ih
    | true =>
      rw [List.filter_cons_of_pos (by simpa using hbatch), List.foldl_cons, ih, find?_record]
      by_cases hkey : o.id.canonical = key
      · simp [hbatch, hkey, Function.comp_def]
      · simp [hkey]

/-- A call without observations leaves the register as it is. -/
@[simp] theorem merge_nil (r : Register) (batch : List ComponentId) : r.merge batch [] = r := rfl

/-- A register that holds what another holds, with more observations at the ends of its
entries. -/
def Extends (r s : Register) : Prop :=
  ∀ key, ∃ more, s.find? key = (r.find? key).map (·.addAll more)

/-- A register extends itself. -/
theorem Extends.refl (r : Register) : r.Extends r := by
  intro key
  exact ⟨[], by simp⟩

/-- What extends a register is extended by what goes on from there. -/
theorem Extends.trans {r s t : Register} (hrs : r.Extends s) (hst : s.Extends t) :
    r.Extends t := by
  intro key
  obtain ⟨a, ha⟩ := hrs key
  obtain ⟨b, hb⟩ := hst key
  refine ⟨a ++ b, ?_⟩
  rw [hb, ha, Option.map_map]
  simp [Function.comp_def]

/-- The entry of a component holds an approval. -/
def approves (r : Register) (id : ComponentId) : Bool :=
  (r.find? id.canonical).any fun e => e.observations.any (·.verdict == .approved)

/-- No approval is lost when a register is extended. -/
theorem Extends.approves {r s : Register} (h : r.Extends s) {id : ComponentId}
    (approved : r.approves id = true) : s.approves id = true := by
  obtain ⟨more, hfind⟩ := h id.canonical
  unfold Register.approves at approved ⊢
  rw [hfind]
  cases hentry : r.find? id.canonical with
  | none => simp [hentry] at approved
  | some e =>
    rw [hentry, Option.any_some] at approved
    rw [Option.map_some, Option.any_some, Entry.observations_addAll, List.any_append, approved]
    rfl

/-- The components among `ids` that are valid and hold no approval. -/
def due (r : Register) (ids : List ComponentId) : List ComponentId :=
  ids.filter fun id => id.isValid && !r.approves id

/-- No id is due twice. -/
theorem pairwise_due (r : Register) (ids : List ComponentId) :
    (r.due (ComponentId.firstOccurrences ids)).Pairwise fun a b => a.canonical ≠ b.canonical :=
  (ComponentId.pairwise_firstOccurrences ids).filter _

/-- What is due is valid, requested under exactly this id, and not approved. -/
theorem of_mem_due {r : Register} {ids : List ComponentId} {id : ComponentId}
    (h : id ∈ r.due (ComponentId.firstOccurrences ids)) :
    id.isValid = true ∧ ids.find? (·.canonical == id.canonical) = some id ∧
      r.approves id = false := by
  obtain ⟨hmem, hdue⟩ := List.mem_filter.1 h
  rw [Bool.and_eq_true, Bool.not_eq_true'] at hdue
  refine ⟨hdue.1, ?_, hdue.2⟩
  rw [← ComponentId.find?_firstOccurrences]
  exact ComponentId.find?_of_mem (ComponentId.pairwise_firstOccurrences ids) hmem

/-- The observations of a call extend the register. -/
theorem extends_merge (r : Register) (batch : List ComponentId) (found : List Observation) :
    r.Extends (r.merge batch found) := by
  intro key
  exact ⟨_, find?_merge r batch found key⟩

end Register

end Clearance
