import Clearance.Batches

/-!
# Batches, one at a time and all at once

Asking for one batch after another finds the same batches as handing all of them to a consumer.

What is left after some calls is not told by making them: `nexts_eq` says it from the number of
calls alone, with the answers read off the list of all batches. `feed_eq` says the same of the
consumer, and `length_chunks` and `length_of_mem_dropLast_chunks` say which list that is.
-/

set_option autoImplicit false

namespace Clearance

universe u v

namespace Batches

variable {α : Type u}

/-! ## All batches -/

section chunks

variable {size : Nat} {size_pos : 0 < size}

/-- Of nothing there are no batches. -/
@[simp] theorem chunks_nil (size : Nat) (size_pos : 0 < size) :
    chunks size size_pos ([] : List α) = [] := by
  rw [chunks]

/-- Every batch that another one follows is full. -/
theorem length_of_mem_dropLast_chunks {items batch : List α}
    (h : batch ∈ (chunks size size_pos items).dropLast) : batch.length = size := by
  fun_induction chunks size size_pos items with
  | case1 => simp at h
  | case2 item rest ih =>
    cases hrest : chunks size size_pos ((item :: rest).drop size) with
    | nil => simp [hrest] at h
    | cons next others =>
      rw [hrest] at ih h
      rw [List.dropLast_cons_of_ne_nil (List.cons_ne_nil _ _)] at h
      rcases List.mem_cons.1 h with rfl | hmem
      · -- If the first batch were short, nothing would be left for the next one.
        have hnonempty : (item :: rest).drop size ≠ [] := by
          intro hnil
          rw [hnil, chunks_nil] at hrest
          simp at hrest
        have hlong : size < (item :: rest).length := by
          simpa [List.drop_eq_nil_iff] using hnonempty
        rw [List.length_take]
        omega
      · exact ih hmem

/-- The number of batches is the number of items divided by the size, rounded up. -/
theorem length_chunks (items : List α) :
    (chunks size size_pos items).length = (items.length + size - 1) / size := by
  fun_induction chunks size size_pos items with
  | case1 =>
    have hpred : ([] : List α).length + size - 1 < size := by
      rw [List.length_nil]
      omega
    exact (Nat.div_eq_of_lt hpred).symm
  | case2 item rest ih =>
    rw [List.length_cons, ih, List.length_drop, List.length_cons]
    by_cases hlast : rest.length + 1 ≤ size
    · have hnone : (rest.length + 1 - size + size - 1) / size = 0 :=
        Nat.div_eq_of_lt (by omega)
      have hone : rest.length + 1 + size - 1 = rest.length + size := by omega
      rw [hnone, hone, Nat.add_div_right _ size_pos, Nat.div_eq_of_lt (by omega)]
    · have hrest : rest.length + 1 - size + size - 1 = rest.length := by omega
      have hall : rest.length + 1 + size - 1 = rest.length + size := by omega
      rw [hrest, hall, Nat.add_div_right _ size_pos]

end chunks

/-! ## One batch after another -/

/-- The answers to the next `calls` calls, and the items that are left after them. -/
def nexts : (calls : Nat) → Batches α → List (Option (List α)) × Batches α
  | 0, b => ([], b)
  | calls + 1, b =>
    let (answer, rest) := b.next
    let (answers, last) := nexts calls rest
    (answer :: answers, last)

/-- The batches with the items of `calls` more calls handed out. -/
def skip (b : Batches α) (calls : Nat) : Batches α :=
  { b with
    waiting := b.waiting.drop (calls * b.size)
    taken := b.taken + min b.waiting.length (calls * b.size) }

/-- A call answers the first batch that is left, and takes no item but those of it. -/
theorem next_eq (b : Batches α) : b.next = (b.toList.head?, b.skip 1) := by
  obtain ⟨waiting, taken, size, size_pos⟩ := b
  cases waiting with
  | nil => simp [next, toList, skip]
  | cons item rest =>
    obtain ⟨pred, rfl⟩ : ∃ pred, size = pred + 1 := ⟨size - 1, by omega⟩
    rw [toList, chunks]
    simp [next, skip, Nat.min_comm]

/-- Without the next batch the other ones are left. -/
theorem toList_skip_one (b : Batches α) : (b.skip 1).toList = b.toList.tail := by
  obtain ⟨waiting, taken, size, size_pos⟩ := b
  cases waiting with
  | nil => simp [toList, skip]
  | cons item rest =>
    have hall : chunks size size_pos (item :: rest) =
        (item :: rest).take size :: chunks size size_pos ((item :: rest).drop size) := by
      rw [chunks]
    simp [toList, skip, hall]

/-- Batches that are skipped one after the other could have been skipped at once. -/
theorem skip_skip (b : Batches α) (m n : Nat) : (b.skip m).skip n = b.skip (m + n) := by
  have hcount : min b.waiting.length (m * b.size) +
      min (b.waiting.length - m * b.size) (n * b.size) =
        min b.waiting.length (m * b.size + n * b.size) := by omega
  simp only [skip, List.drop_drop, List.length_drop, Nat.add_mul, Nat.add_assoc, hcount]

/-- Each call answers the batch at its place, or none if there are not so many. -/
theorem nexts_eq (calls : Nat) (b : Batches α) :
    nexts calls b = ((List.range calls).map (b.toList[·]?), b.skip calls) := by
  induction calls generalizing b with
  | zero => simp [nexts, skip]
  | succ calls ih =>
    have hanswer : b.toList.head? = b.toList[0]? := List.head?_eq_getElem?
    have hothers : (List.range calls).map ((b.skip 1).toList[·]?) =
        (List.range calls).map (b.toList[· + 1]?) := by
      rw [toList_skip_one]
      simp only [List.getElem?_tail]
    rw [nexts, next_eq]
    dsimp only
    rw [ih, skip_skip, Nat.add_comm 1 calls, List.range_succ_eq_map, List.map_cons, List.map_map,
      hanswer, hothers]
    rfl

/-! ## A consumer -/

/-- No batch is left where there is no next one. -/
theorem toList_of_next_none {b rest : Batches α} (h : b.next = (none, rest)) : b.toList = [] := by
  rw [next_eq, Prod.mk.injEq] at h
  exact List.head?_eq_none_iff.1 h.1

/-- The next batch is the first one of those that are left. -/
theorem toList_of_next_some {b rest : Batches α} {batch : List α}
    (h : b.next = (some batch, rest)) : b.toList = batch :: rest.toList := by
  rw [next_eq, Prod.mk.injEq] at h
  obtain ⟨hhead, rfl⟩ := h
  obtain ⟨others, hall⟩ := List.head?_eq_some_iff.1 hhead
  rw [toList_skip_one, hall, List.tail_cons]

/-- A batch takes items out of what waits. -/
theorem length_waiting_lt {b rest : Batches α} {batch : List α} (h : b.next = (some batch, rest)) :
    rest.waiting.length < b.waiting.length := by
  have hwaiting : b.waiting ≠ [] := by
    intro hnil
    have hall := toList_of_next_some h
    rw [toList, hnil, chunks_nil] at hall
    cases hall
  have hpos := List.length_pos_iff.2 hwaiting
  have hsize := b.size_pos
  rw [next_eq, Prod.mk.injEq] at h
  rw [← h.2, skip, List.length_drop]
  omega

/-- What a consumer makes of all batches that are left, given to it one after the other. -/
def feed {σ : Type v} (consume : σ → List α → σ) (b : Batches α) (state : σ) : σ :=
  match _h : b.next with
  | (none, _) => state
  | (some batch, rest) => rest.feed consume (consume state batch)
termination_by b.waiting.length
decreasing_by exact length_waiting_lt _h

/-- Gives items to a consumer in batches, or refuses to. -/
def handOut {σ : Type v} (items : List α) (size : Nat) (consume : σ → List α → σ) (state : σ) :
    Except InvalidArgument Unit × σ :=
  match of items size with
  | .ok b => (.ok (), b.feed consume state)
  | .error e => (.error e, state)

/-- The consumer is given all batches that are left, in their order, and no others. -/
theorem feed_eq {σ : Type v} (consume : σ → List α → σ) (b : Batches α) (state : σ) :
    b.feed consume state = b.toList.foldl consume state := by
  fun_induction feed consume b state with
  | case1 b state rest h => rw [toList_of_next_none h, List.foldl_nil]
  | case2 b state batch rest h ih => rw [ih, toList_of_next_some h, List.foldl_cons]

/-- Items in batches of a size that is not zero. A consumer is given as many batches as the items
fill, the last one perhaps in part; put together they are the items. Asking for one batch after
another finds the same ones, and then nothing; it leaves all items but those of the batches asked
for. Batches of no items are refused, and a consumer is then given none. -/
theorem nexts_eq_handOut (items : List α) (size : Nat) :
    (size = 0 → of items size = .error .noBatchSize ∧ chunked items size = .error .noBatchSize ∧
      ∀ {σ : Type v} (consume : σ → List α → σ) (state : σ),
        handOut items size consume state = (.error .noBatchSize, state)) ∧
    (0 < size → ∃ b batches, of items size = .ok b ∧ chunked items size = .ok batches ∧
      (∀ {σ : Type v} (consume : σ → List α → σ) (state : σ),
        handOut items size consume state = (.ok (), batches.foldl consume state)) ∧
      batches.length = (items.length + size - 1) / size ∧
      batches.flatten = items ∧
      (∀ batch ∈ batches.dropLast, batch.length = size) ∧
      (∀ batch, batches.getLast? = some batch → 1 ≤ batch.length ∧ batch.length ≤ size) ∧
      ∀ calls,
        (nexts calls b).1 = (List.range calls).map (batches[·]?) ∧
        (nexts calls b).2.taken = min items.length (calls * size) ∧
        (nexts calls b).2.waiting = items.drop (calls * size)) := by
  constructor
  · rintro rfl
    exact ⟨rfl, rfl, fun _ _ => rfl⟩
  · intro hpos
    have hof : of items size = .ok ⟨items, 0, size, hpos⟩ := dif_pos hpos
    refine ⟨_, chunks size hpos items, hof, ?_, ?_, length_chunks items,
      flatten_chunks size hpos items, ?_, ?_, ?_⟩
    · rw [chunked, hof]
      rfl
    · intro σ consume state
      rw [handOut, hof]
      dsimp only
      rw [feed_eq, toList]
    · intro batch hbatch
      exact length_of_mem_dropLast_chunks hbatch
    · intro batch hlast
      exact length_of_mem_chunks (List.mem_of_getLast? hlast)
    · intro calls
      rw [nexts_eq]
      exact ⟨rfl, Nat.zero_add _, rfl⟩

end Batches

end Clearance
