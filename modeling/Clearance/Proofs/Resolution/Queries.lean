import Clearance.Proofs.Resolution.Walk

/-!
# What providers are asked

A provider is asked about the components that are due when its turn begins: the valid ones that
hold no approval yet. The register at that point is the result of the resolution with only the
providers before it, so what is due can be said without the inner states of a run.

The batches that a provider is asked about are the first ones of what is due, all of them unless a
failure ends the resolution (`asked_visit`). Since registers only grow (`extends_visit_append`), a
component that one provider has approved is not due for any later one. The calls that are listed
are all calls that are made, because they alone account for the world at the end (`world_visit`).
-/

set_option autoImplicit false

namespace Clearance

universe u

variable {σ : Type u}

/-! ## Batches -/

/-- Batches of at most `size` components that begin to go through what is due, in its order. -/
structure InBatches (size : Nat) (due : List ComponentId) (batches : List (List ComponentId)) :
    Prop where
  inOrder : batches.flatten <+: due
  /-- Every batch that another one follows is full. -/
  full : ∀ batch ∈ batches.dropLast, batch.length = size
  sized : ∀ batch ∈ batches, 0 < batch.length ∧ batch.length ≤ size

/-- The first ones of the batches of what is due. -/
theorem inBatches_of_chunks {size : Nat} {size_pos : 0 < size} {due : List ComponentId}
    {batches : List (List ComponentId)} (h : batches <+: Batches.chunks size size_pos due) :
    InBatches size due batches := by
  obtain ⟨rest, hrest⟩ := h
  refine ⟨?_, ?_, ?_⟩
  · refine ⟨rest.flatten, ?_⟩
    rw [← List.flatten_append, hrest, Batches.flatten_chunks]
  · intro batch hbatch
    have hmem : batch ∈ (Batches.chunks size size_pos due).dropLast := by
      rw [← hrest]
      cases rest with
      | nil =>
        rw [List.append_nil]
        exact hbatch
      | cons next others =>
        rw [List.dropLast_append_cons]
        exact List.mem_append_left _ (List.dropLast_subset _ hbatch)
    exact Batches.length_of_mem_dropLast_chunks hmem
  · intro batch hbatch
    have hmem : batch ∈ Batches.chunks size size_pos due := by
      rw [← hrest]
      exact List.mem_append_left _ hbatch
    exact Batches.length_of_mem_chunks hmem

/-- Of nothing there are no batches. -/
theorem InBatches.eq_nil {size : Nat} {batches : List (List ComponentId)}
    (h : InBatches size [] batches) : batches = [] := by
  cases batches with
  | nil => rfl
  | cons batch batches =>
    have hpos := (h.sized batch List.mem_cons_self).1
    have hnil : batch ++ batches.flatten = [] := List.eq_nil_of_prefix_nil h.inOrder
    rw [(List.append_eq_nil_iff.1 hnil).1] at hpos
    exact absurd hpos (Nat.lt_irrefl 0)

/-! ## Runs -/

namespace Resolution

variable {o : Options} (size_pos : 0 < o.batchSize) (busy : 0 < o.concurrency)
  (ids : List ComponentId)

include busy

/-- Each provider has its list of batches, be it empty. -/
theorem length_asked (providers : List (Provider σ)) (s : Progress σ) :
    (visit o size_pos ids providers s).asked.length = providers.length := by
  induction providers generalizing s with
  | nil => rfl
  | cons p providers ih =>
    obtain ⟨s', failure?, hturn, -⟩ := turn_eq size_pos busy ids p s
    rw [visit_cons, hturn]
    cases failure? with
    | some failure => simp
    | none => simp [ih]

/-- Registers only grow in the course of a resolution. -/
theorem extends_visit (providers : List (Provider σ)) (s : Progress σ) :
    s.register.Extends (visit o size_pos ids providers s).register := by
  induction providers generalizing s with
  | nil => exact Register.Extends.refl _
  | cons p providers ih =>
    obtain ⟨s', failure?, hturn, hsettle, -⟩ := turn_eq size_pos busy ids p s
    have hgrows := extends_settle o.timeout o.mode
      ((p.calls (Batches.chunks o.batchSize size_pos (pending s.register ids)) s.world).map
        (p.name, ·)) s.register
    rw [hsettle] at hgrows
    rw [visit_cons, hturn]
    cases failure? with
    | some failure => exact hgrows
    | none => exact hgrows.trans (ih s')

/-- More providers at the end only add to the register. -/
theorem extends_visit_append (a b : List (Provider σ)) (s : Progress σ) :
    (visit o size_pos ids a s).register.Extends (visit o size_pos ids (a ++ b) s).register := by
  induction a generalizing s with
  | nil => exact extends_visit size_pos busy ids b s
  | cons p a ih =>
    obtain ⟨s', failure?, hturn, -⟩ := turn_eq size_pos busy ids p s
    rw [List.cons_append, visit_cons, visit_cons, hturn]
    cases failure? with
    | some failure => exact Register.Extends.refl _
    | none => exact ih s'

/-- What a provider is asked about, from what is due after the providers before it. -/
theorem asked_visit {providers : List (Provider σ)} {s : Progress σ} {i : Nat}
    {batches : List (List ComponentId)}
    (h : (visit o size_pos ids providers s).asked[i]? = some batches) :
    batches <+: Batches.chunks o.batchSize size_pos
      ((visit o size_pos ids (providers.take i) s).register.due ids) ∧
    ((visit o size_pos ids providers s).outcome = .complete →
      batches = Batches.chunks o.batchSize size_pos
        ((visit o size_pos ids (providers.take i) s).register.due ids)) := by
  induction providers generalizing s i with
  | nil => simp [visit, finish] at h
  | cons p providers ih =>
    -- The first position is this turn, and the others are those of the rest of the run.
    obtain ⟨s', failure?, hturn, -, hbegun, hall, -⟩ := turn_eq size_pos busy ids p s
    rw [pending_eq_due] at hbegun hall
    rw [visit_cons, hturn] at h
    cases i with
    | zero =>
      rw [visit_cons, hturn]
      cases failure? with
      | some failure =>
        obtain rfl : s'.asked = batches := Option.some.inj h
        exact ⟨hbegun, fun hcomplete => by simp at hcomplete⟩
      | none =>
        obtain rfl : s'.asked = batches := Option.some.inj h
        exact ⟨hbegun, fun _ => hall rfl⟩
    | succ i =>
      rw [List.take_succ_cons, visit_cons, visit_cons, hturn]
      cases failure? with
      | some failure =>
        -- The providers after a fatal failure are not asked at all.
        have hnone : batches = [] := by
          rw [List.getElem?_cons_succ, List.getElem?_map, Option.map_eq_some_iff] at h
          obtain ⟨-, -, hnil⟩ := h
          exact hnil.symm
        rw [hnone]
        exact ⟨List.nil_prefix, fun hcomplete => by simp at hcomplete⟩
      | none => exact ih h

/-- The listed calls lead from the first world to the last one. -/
theorem world_visit (providers : List (Provider σ)) (s : Progress σ) :
    (visit o size_pos ids providers s).world =
      (providers.zip (visit o size_pos ids providers s).asked).foldl
        (fun world turn => turn.1.worldAfter turn.2 world) s.world := by
  induction providers generalizing s with
  | nil => rfl
  | cons p providers ih =>
    obtain ⟨s', failure?, hturn, -, -, -, hworld⟩ := turn_eq size_pos busy ids p s
    rw [visit_cons, hturn]
    cases failure? with
    | some failure =>
      have hidle : ∀ world : σ, (providers.zip (providers.map fun _ => [])).foldl
          (fun world turn => turn.1.worldAfter turn.2 world) world = world := by
        intro world
        clear ih hturn
        induction providers with
        | nil => rfl
        | cons _ providers ih => exact ih
      dsimp only
      rw [List.zip_cons_cons, List.foldl_cons, hidle, hworld]
    | none =>
      dsimp only
      rw [List.zip_cons_cons, List.foldl_cons, ih s', hworld]

end Resolution

/-- A resolution whose options are refused does not begin. -/
theorem resolve_of_refusal {o : Options} {refusal : InvalidArgument}
    (refused : o.refusal? = some refusal) (providers : List (Provider σ)) (ids : List ComponentId)
    (world : σ) : resolve providers o ids world = .error refusal := by
  unfold resolve
  split
  · next other h =>
    rw [refused] at h
    rw [Option.some.inj h]
  · next h => simp [refused] at h

/-- What the provider at each position of a resolution is asked about, and that the world changes
by these calls alone. -/
theorem resolve_asks_due {o : Options} (accepted : o.refusal? = none)
    (providers : List (Provider σ)) (ids : List ComponentId) (world : σ) :
    ∃ r, resolve providers o ids world = .ok r ∧ r.asked.length = providers.length ∧
      r.world = (providers.zip r.asked).foldl
        (fun world turn => turn.1.worldAfter turn.2 world) world ∧
      ∀ i batches, r.asked[i]? = some batches →
        ∃ before, resolve (providers.take i) o ids world = .ok before ∧
          InBatches o.batchSize (before.register.due (ComponentId.firstOccurrences ids)) batches ∧
          (r.outcome = .complete →
            batches.flatten = before.register.due (ComponentId.firstOccurrences ids)) ∧
          ∀ j ≤ i, ∀ earlier, resolve (providers.take j) o ids world = .ok earlier →
            earlier.register.Extends before.register := by
  have hbusy := Options.concurrency_pos accepted
  refine ⟨_, resolve_eq_visit accepted providers ids world,
    Resolution.length_asked _ hbusy _ providers _, Resolution.world_visit _ hbusy _ providers _, ?_⟩
  intro i batches hbatches
  obtain ⟨hbegun, hall⟩ := Resolution.asked_visit _ hbusy _ hbatches
  refine ⟨_, resolve_eq_visit accepted (providers.take i) ids world, inBatches_of_chunks hbegun,
    ?_, ?_⟩
  · intro hcomplete
    rw [hall hcomplete, Batches.flatten_chunks]
  · intro j hj earlier hearlier
    rw [resolve_eq_visit accepted] at hearlier
    obtain rfl := Except.ok.inj hearlier
    -- The providers up to `i` are those up to `j` and some more.
    have hsplit := List.take_append_drop j (providers.take i)
    rw [List.take_take, Nat.min_eq_left hj] at hsplit
    rw [← hsplit]
    exact Resolution.extends_visit_append _ hbusy _ _ _ _

end Clearance
