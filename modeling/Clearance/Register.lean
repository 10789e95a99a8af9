import Clearance.Entry

/-!
# The register

The result of a resolution: one entry for each requested component, in the order of the
canonical texts of their ids. Texts are ordered by code points, which is also the order of
their UTF-8 bytes.

The keys are strictly increasing, so a register is determined by what `find?` answers. `insert`
and `alter` say what they do to that view.

The observations of one call get into a register by `merge`. An observation is appended to the entry
of its component if the call asked about that component, and dropped otherwise, so that no provider
can speak about what it was not asked for.
-/

set_option autoImplicit false

namespace Clearance

/-- Entries under strictly increasing canonical texts. -/
structure Register where
  rows : List (String × Entry)
  increasing : rows.Pairwise fun a b => a.1 < b.1

namespace Register

/-- The register without entries. -/
def empty : Register := ⟨[], .nil⟩

/-- The entries, in the order of their keys. -/
def entries (r : Register) : List Entry := r.rows.map (·.2)

/-- The number of entries. -/
def size (r : Register) : Nat := r.rows.length

/-- The entry under a key. -/
def find? (r : Register) (key : String) : Option Entry :=
  (r.rows.find? (·.1 == key)).map (·.2)

/-- Rows with `e` under `key`, in the place of any entry that stood there. -/
def insertRow (key : String) (e : Entry) : List (String × Entry) → List (String × Entry)
  | [] => [(key, e)]
  | row :: rows =>
    if key < row.1 then (key, e) :: row :: rows
    else if row.1 < key then row :: insertRow key e rows
    else (row.1, e) :: rows

/-- Every key after an insertion was there before, or is the new one. -/
theorem mem_insertRow {key : String} {e : Entry} {rows : List (String × Entry)}
    {row : String × Entry} (h : row ∈ insertRow key e rows) :
    row.1 = key ∨ ∃ old ∈ rows, old.1 = row.1 := by
  induction rows with
  | nil =>
    simp only [insertRow, List.mem_singleton] at h
    exact Or.inl (by rw [h])
  | cons first rows ih =>
    simp only [insertRow] at h
    split at h
    · rcases List.mem_cons.1 h with rfl | hold
      · exact Or.inl rfl
      · exact Or.inr ⟨row, hold, rfl⟩
    · split at h
      · rcases List.mem_cons.1 h with rfl | hrest
        · exact Or.inr ⟨row, List.mem_cons_self, rfl⟩
        · rcases ih hrest with hkey | ⟨old, hmem, heq⟩
          · exact Or.inl hkey
          · exact Or.inr ⟨old, List.mem_cons_of_mem _ hmem, heq⟩
      · rcases List.mem_cons.1 h with rfl | hrest
        · exact Or.inr ⟨first, List.mem_cons_self, rfl⟩
        · exact Or.inr ⟨row, List.mem_cons_of_mem _ hrest, rfl⟩

/-- Insertion keeps the keys strictly increasing. -/
theorem increasing_insertRow (key : String) (e : Entry) {rows : List (String × Entry)}
    (h : rows.Pairwise fun a b => a.1 < b.1) :
    (insertRow key e rows).Pairwise fun a b => a.1 < b.1 := by
  induction rows with
  | nil => simp [insertRow]
  | cons first rows ih =>
    obtain ⟨hfirst, hrows⟩ := List.pairwise_cons.1 h
    simp only [insertRow]
    split
    · next hlt =>
      refine List.pairwise_cons.2 ⟨fun row hrow => ?_, h⟩
      rcases List.mem_cons.1 hrow with rfl | hmem
      · exact hlt
      · exact String.lt_trans hlt (hfirst row hmem)
    · split
      · next hlt =>
        refine List.pairwise_cons.2 ⟨fun row hrow => ?_, ih hrows⟩
        rcases mem_insertRow hrow with hkey | ⟨old, hmem, heq⟩
        · exact hkey ▸ hlt
        · exact heq ▸ hfirst old hmem
      · exact List.pairwise_cons.2 ⟨hfirst, hrows⟩

/-- The register with `e` under `key`, in the place of any entry that stood there. -/
def insert (r : Register) (key : String) (e : Entry) : Register :=
  ⟨insertRow key e r.rows, increasing_insertRow key e r.increasing⟩

/-- The register with `f` applied to the entry under `key`, if there is one. -/
def alter (r : Register) (key : String) (f : Entry → Entry) : Register where
  rows := r.rows.map fun row => if row.1 = key then (row.1, f row.2) else row
  increasing := by
    refine List.pairwise_map.2 (r.increasing.imp fun {a b} h => ?_)
    split <;> split <;> exact h

/-- The empty register holds nothing under any key. -/
@[simp] theorem find?_empty (key : String) : empty.find? key = none := rfl

/-- After an insertion the inserted entry stands under its key, and nothing else has changed. -/
theorem find?_insertRow (key key' : String) (e : Entry) {rows : List (String × Entry)}
    (h : rows.Pairwise fun a b => a.1 < b.1) :
    ((insertRow key e rows).find? (·.1 == key')).map (·.2) =
      if key' = key then some e else (rows.find? (·.1 == key')).map (·.2) := by
  induction rows with
  | nil =>
    by_cases hkey : key' = key
    · simp [insertRow, hkey]
    · simp [insertRow, hkey, Ne.symm hkey]
  | cons first rows ih =>
    obtain ⟨hfirst, hrows⟩ := List.pairwise_cons.1 h
    have ih := ih hrows
    simp only [insertRow]
    split
    · by_cases hkey : key' = key
      · simp [hkey]
      · simp [List.find?_cons, Ne.symm hkey, hkey]
    · next hge =>
      split
      · next hlt =>
        by_cases hhere : first.1 = key'
        · have hne : key' ≠ key := fun heq =>
            String.lt_irrefl key ((hhere.trans heq) ▸ hlt)
          simp [hhere, hne]
        · simp only [List.find?_cons, beq_eq_false_iff_ne.2 hhere]
          exact ih
      · next hge' =>
        have heq : first.1 = key := String.le_antisymm (String.not_lt.1 hge) (String.not_lt.1 hge')
        by_cases hkey : key' = key
        · simp [heq, hkey]
        · simp [heq, Ne.symm hkey, hkey]

/-- After an insertion the inserted entry stands under its key, and nothing else has changed. -/
theorem find?_insert (r : Register) (key key' : String) (e : Entry) :
    (r.insert key e).find? key' = if key' = key then some e else r.find? key' :=
  find?_insertRow key key' e r.increasing

/-- An alteration reaches the entry under its key and no other. -/
theorem find?_alter (r : Register) (key key' : String) (f : Entry → Entry) :
    (r.alter key f).find? key' =
      if key' = key then (r.find? key').map f else r.find? key' := by
  obtain ⟨rows, hrows⟩ := r
  simp only [find?, alter]
  clear hrows
  induction rows with
  | nil => simp
  | cons first rows ih =>
    by_cases hhere : first.1 = key'
    · by_cases hkey : key' = key
      · simp [hhere, hkey]
      · simp [hhere, hkey]
    · have hsame : (if first.1 = key then (first.1, f first.2) else first).1 = first.1 := by
        split <;> rfl
      simp only [List.map_cons, List.find?_cons, hsame, beq_eq_false_iff_ne.2 hhere]
      exact ih

/-- Some entry stands under `key`. -/
def contains (r : Register) (key : String) : Bool := r.rows.any (·.1 == key)

/-- The entries with a given status, in order. -/
def withStatus (r : Register) (s : Status) : List Entry := r.entries.filter (·.status == s)

/-- The register of ids, each with an entry that holds no observation. -/
def ofIds (ids : List ComponentId) : Register :=
  ids.foldl (fun r id => r.insert id.canonical { id }) empty

/-- The register with one observation appended to the entry of its component. -/
def record (r : Register) (o : Observation) : Register := r.alter o.id.canonical (·.add o)

/-- The register with the observations of a call, in their order, where the call asked about
`batch`. -/
def merge (r : Register) (batch : List ComponentId) (found : List Observation) : Register :=
  (found.filter fun o => o.id.isIn batch).foldl record r

end Register

end Clearance
