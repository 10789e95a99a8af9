import Clearance.Resolution.Options

/-!
# Batches

A sequence of items handed out in batches: each holds exactly `size` items, except that the last
may hold fewer, and none is empty. Items are taken from the sequence only when the batch that
holds them is asked for, and `taken` counts them.
-/

set_option autoImplicit false

namespace Clearance

universe u

/-- The items that are still to be handed out. -/
structure Batches (α : Type u) where
  waiting : List α
  /-- The number of items that have been handed out. -/
  taken : Nat
  /-- The number of items in a batch. -/
  size : Nat
  size_pos : 0 < size

namespace Batches

variable {α : Type u}

/-- The batches of `items`; a batch must hold at least one item. -/
def of (items : List α) (size : Nat) : Except InvalidArgument (Batches α) :=
  if h : 0 < size then .ok ⟨items, 0, size, h⟩ else .error .noBatchSize

/-- The next batch, or `none` if no item waits, and the items that are left. -/
def next (b : Batches α) : Option (List α) × Batches α :=
  match b.waiting.take b.size with
  | [] => (none, b)
  | batch =>
    (some batch,
      { b with waiting := b.waiting.drop b.size, taken := b.taken + batch.length })

/-- Items in batches of `size`, where `size` is not zero. -/
def chunks (size : Nat) (size_pos : 0 < size) (items : List α) : List (List α) :=
  match items with
  | [] => []
  | item :: rest =>
    (item :: rest).take size :: chunks size size_pos ((item :: rest).drop size)
termination_by items.length
decreasing_by simp only [List.length_drop, List.length_cons]; omega

/-- The batches put together are the items. -/
theorem flatten_chunks (size : Nat) (size_pos : 0 < size) (items : List α) :
    (chunks size size_pos items).flatten = items := by
  fun_induction chunks size size_pos items with
  | case1 => rfl
  | case2 item rest ih => rw [List.flatten_cons, ih, List.take_append_drop]

/-- No batch is empty or holds more than `size` items. -/
theorem length_of_mem_chunks {size : Nat} {size_pos : 0 < size} {items batch : List α}
    (h : batch ∈ chunks size size_pos items) : 0 < batch.length ∧ batch.length ≤ size := by
  fun_induction chunks size size_pos items with
  | case1 => simp at h
  | case2 item rest ih =>
    rcases List.mem_cons.1 h with rfl | hrest
    · simp only [List.length_take, List.length_cons]
      omega
    · exact ih hrest

/-- All batches that are left. -/
def toList (b : Batches α) : List (List α) := chunks b.size b.size_pos b.waiting

/-- All items that are left, in batches. -/
def chunked (items : List α) (size : Nat) : Except InvalidArgument (List (List α)) :=
  (of items size).map toList

end Batches

end Clearance
