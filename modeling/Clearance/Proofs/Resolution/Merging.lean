import Clearance.Proofs.Resolution.Calls
import Mathlib.Data.List.Pairwise
import Mathlib.Data.List.Sort

/-!
# What merging changes

The answers of a call are merged one observation at a time, and one observation changes one row of
the register (`Register.exists_rows_alter`). So a merge keeps the keys and the ids, adds exactly the
observations that were asked for (`Register.observations_merge`), and leaves the entries of all
other components as they were. An observation that was not asked for is not lost silently: it is
warned of, and both kinds add up to what was found, in one call (`Register.accounts_merge`) and in
many (`Register.accounts_hearAll`).

Two registers that hold the same under every key are equal (`Register.eq_of_find?`), which makes the
order of merges a question about single entries: no entry gains from two batches without a common
component. Calls about different components can therefore be heard in any order
(`Register.hearAll_perm`).
-/

set_option autoImplicit false

namespace Clearance

namespace Register

variable {r s : Register} {key : String}

/-- The keys, in order. -/
def keys (r : Register) : List String := r.rows.map (·.1)

/-- The observations of all entries. -/
def observations (r : Register) : List Observation := r.entries.flatMap (·.observations)

/-- Every observation is about the component under whose key it stands. -/
def IsFiled (r : Register) : Prop :=
  ∀ row ∈ r.rows, ∀ o ∈ row.2.observations, o.id.canonical = row.1

instance (r : Register) : Decidable r.IsFiled := inferInstanceAs (Decidable (∀ row ∈ r.rows, _))

/-- A register contains a key exactly if an entry stands under it. -/
theorem contains_iff : r.contains key = true ↔ ∃ e, r.find? key = some e := by
  simp only [contains, List.any_eq_true, beq_iff_eq]
  constructor
  · rintro ⟨row, hrow, rfl⟩
    exact ⟨row.2, mem_rows_iff.1 hrow⟩
  · rintro ⟨e, he⟩
    exact ⟨(key, e), mem_rows_iff.2 he, rfl⟩

/-- A register is what can be looked up in it. -/
theorem eq_of_find? (h : ∀ key, r.find? key = s.find? key) : r = s := by
  have hmem : ∀ row, row ∈ r.rows ↔ row ∈ s.rows := by
    rintro ⟨key, e⟩
    rw [mem_rows_iff, mem_rows_iff, h]
  have : Std.Antisymm fun a b : String × Entry => a.1 < b.1 :=
    ⟨fun _ _ hab hba => absurd (String.lt_trans hab hba) (String.lt_irrefl _)⟩
  have : Std.Irrefl fun a b : String × Entry => a.1 < b.1 := ⟨fun _ => String.lt_irrefl _⟩
  have hrows := r.increasing.eq_of_mem_iff s.increasing hmem
  cases r
  cases s
  cases hrows
  rfl

/-! ## One observation -/

/-- An alteration replaces one row. -/
theorem exists_rows_alter {e : Entry} (h : r.find? key = some e) (f : Entry → Entry) :
    ∃ front back, r.rows = front ++ (key, e) :: back ∧
      (r.alter key f).rows = front ++ (key, f e) :: back := by
  obtain ⟨front, back, hrows⟩ := List.append_of_mem (mem_rows_iff.2 h)
  have hincreasing := r.increasing
  rw [hrows, List.pairwise_append, List.pairwise_cons] at hincreasing
  obtain ⟨-, ⟨hback, -⟩, hfront⟩ := hincreasing
  -- The rows around it stand under other keys.
  have hsame {rows : List (String × Entry)} (other : ∀ row ∈ rows, row.1 ≠ key) :
      rows.map (fun row => if row.1 = key then (row.1, f row.2) else row) = rows := by
    rw [List.map_congr_left fun row hrow => if_neg (other row hrow), List.map_id']
  have hbehind := hsame fun row hrow => (String.ne_of_lt (hback row hrow)).symm
  have hbefore := hsame fun row hrow =>
    String.ne_of_lt (hfront row hrow (key, e) List.mem_cons_self)
  refine ⟨front, back, hrows, ?_⟩
  show r.rows.map _ = _
  rw [hrows, List.map_append, List.map_cons, if_pos rfl, hbefore, hbehind]

/-- No observation that is recorded changes the keys. -/
theorem keys_record (r : Register) (o : Observation) : (r.record o).keys = r.keys := by
  rw [keys, keys, record, alter, List.map_map]
  apply List.map_congr_left
  intro row _
  rw [Function.comp_apply]
  split <;> rfl

/-- Registers with the same keys contain the same ones. -/
theorem contains_congr (h : r.keys = s.keys) : r.contains key = s.contains key := by
  have hkeys (r : Register) : r.contains key = r.keys.any (· == key) := by
    rw [contains, keys, List.any_map]
    rfl
  rw [hkeys, hkeys, h]

/-- An observation that is recorded under a key of the register is there once more. -/
theorem observations_record {o : Observation} (h : r.contains o.id.canonical = true) :
    (r.record o).observations.Perm (r.observations ++ [o]) := by
  obtain ⟨e, he⟩ := contains_iff.1 h
  obtain ⟨front, back, hrows, hrecord⟩ := exists_rows_alter he (·.add o)
  have hmove (a b : List Observation) : (a ++ ([o] ++ b)).Perm (a ++ b ++ [o]) := by
    rw [List.append_assoc]
    exact List.perm_append_comm.append_left a
  have hsplit := hmove ((front.map (·.2)).flatMap (·.observations) ++ e.observations)
    ((back.map (·.2)).flatMap (·.observations))
  rw [observations, observations, entries, entries, record, hrecord, hrows]
  simpa [Entry.add] using hsplit

/-! ## The answers of a call -/

/-- No call changes the keys. -/
theorem keys_merge (r : Register) (batch : List ComponentId) (found : List Observation) :
    (r.merge batch found).keys = r.keys := by
  unfold merge
  induction found.filter (fun o => o.id.isIn batch) generalizing r with
  | nil => rfl
  | cons o kept ih => rw [List.foldl_cons, ih, keys_record]

/-- Observations that are recorded under keys of the register are there once more. -/
theorem observations_foldl_record {kept : List Observation}
    (h : ∀ o ∈ kept, r.contains o.id.canonical = true) :
    (kept.foldl record r).observations.Perm (r.observations ++ kept) := by
  induction kept generalizing r with
  | nil => rw [List.foldl_nil, List.append_nil]
  | cons o kept ih =>
    obtain ⟨hhere, hrest⟩ := List.forall_mem_cons.1 h
    have hkept := ih (r := r.record o) fun other hother => by
      rw [contains_congr (keys_record r o), hrest other hother]
    rw [List.foldl_cons, List.append_cons]
    exact hkept.trans ((observations_record hhere).append_right kept)

variable {batch : List ComponentId}

/-- A merge adds what was asked for, and nothing else. -/
theorem observations_merge (entered : ∀ id ∈ batch, r.contains id.canonical = true)
    (found : List Observation) :
    (r.merge batch found).observations.Perm
      (r.observations ++ found.filter (·.id.isIn batch)) := by
  apply observations_foldl_record
  intro o ho
  obtain ⟨id, hid, heq⟩ := ComponentId.isIn_iff.1 (List.mem_filter.1 ho).2
  rw [← heq]
  exact entered id hid

/-- Everything that a call found is added or warned of. -/
theorem accounts_merge (entered : ∀ id ∈ batch, r.contains id.canonical = true)
    (found : List Observation) (provider : String) :
    (r.merge batch found).observations.length + (strayEvents provider batch found).length =
      r.observations.length + found.length := by
  have hadded := (observations_merge entered found).length_eq
  have hall := List.length_eq_length_filter_add (l := found) (·.id.isIn batch)
  rw [List.length_append] at hadded
  rw [strayEvents, List.length_map]
  omega

/-- No call changes the id of an entry. -/
theorem map_id_find?_merge (r : Register) (batch : List ComponentId) (found : List Observation)
    (key : String) : ((r.merge batch found).find? key).map (·.id) = (r.find? key).map (·.id) := by
  rw [find?_merge, Option.map_map]
  rfl

/-- A call adds nothing to the entry of a component outside its batch. -/
theorem filter_isIn_of_other (other : ∀ id ∈ batch, id.canonical ≠ key)
    (found : List Observation) :
    (found.filter fun o => o.id.isIn batch && o.id.canonical == key) = [] := by
  rw [List.filter_eq_nil_iff]
  intro o _ hkept
  rw [Bool.and_eq_true, ComponentId.isIn_iff, beq_iff_eq] at hkept
  obtain ⟨⟨id, hid, heq⟩, hkey⟩ := hkept
  exact other id hid (heq.trans hkey)

/-- A call leaves the entries outside its batch as they are. -/
theorem find?_merge_of_other (other : ∀ id ∈ batch, id.canonical ≠ key)
    (found : List Observation) : (r.merge batch found).find? key = r.find? key := by
  rw [find?_merge, filter_isIn_of_other other]
  simp

/-- An entry in the batch of a call gets what the call has found about its id. -/
theorem find?_merge_of_mem {id : ComponentId} (h : id ∈ batch) (found : List Observation) :
    (r.merge batch found).find? id.canonical =
      (r.find? id.canonical).map (·.addAll (found.filter (·.id.sameAs id))) := by
  have hsame : found.filter (fun o => o.id.isIn batch && o.id.canonical == id.canonical) =
      found.filter (·.id.sameAs id) := by
    apply List.filter_congr
    intro o _
    rw [ComponentId.sameAs, Bool.and_eq_right_iff_imp, beq_iff_eq]
    exact fun heq => ComponentId.isIn_iff.2 ⟨id, h, heq.symm⟩
  rw [find?_merge, hsame]

/-- A call files its observations under their own keys. -/
theorem IsFiled.merge (h : r.IsFiled) (batch : List ComponentId) (found : List Observation) :
    (r.merge batch found).IsFiled := by
  rintro ⟨key, e⟩ he o ho
  rw [mem_rows_iff, find?_merge, Option.map_eq_some_iff] at he
  obtain ⟨before, hbefore, rfl⟩ := he
  rcases List.mem_append.1 ho with hold | hnew
  · exact h (key, before) (mem_rows_iff.2 hbefore) o hold
  · have hkept := (List.mem_filter.1 hnew).2
    rw [Bool.and_eq_true, beq_iff_eq] at hkept
    exact hkept.2

/-! ## Several calls -/

section calls

variable {limit : Duration} {calls : List Call}

/-- Everything that calls deliver is added or warned of. -/
theorem accounts_hearAll (entered : ∀ c ∈ calls, ∀ id ∈ c.batch, r.contains id.canonical = true)
    (provider : String) :
    (r.hearAll limit calls).observations.length +
        (calls.flatMap fun c => strayEvents provider c.batch (c.delivered limit)).length =
      r.observations.length + (calls.flatMap (·.delivered limit)).length := by
  induction calls generalizing r with
  | nil => rfl
  | cons c calls ih =>
    obtain ⟨hhere, hrest⟩ := List.forall_mem_cons.1 entered
    have hkeys : (r.hear limit c).keys = r.keys := keys_merge r c.batch (c.delivered limit)
    have hcall : (r.hear limit c).observations.length +
        (strayEvents provider c.batch (c.delivered limit)).length =
          r.observations.length + (c.delivered limit).length :=
      accounts_merge hhere (c.delivered limit) provider
    have hcalls := ih (r := r.hear limit c) fun d hd id hid => by
      rw [contains_congr hkeys, hrest d hd id hid]
    rw [hearAll_cons, List.flatMap_cons, List.flatMap_cons, List.length_append,
      List.length_append]
    omega

/-- Calls about disjoint batches may come in either order. -/
theorem merge_comm {others : List ComponentId}
    (disjoint : ∀ id ∈ batch, ∀ other ∈ others, id.canonical ≠ other.canonical)
    (r : Register) (found more : List Observation) :
    (r.merge batch found).merge others more = (r.merge others more).merge batch found := by
  apply eq_of_find?
  intro key
  by_cases hmem : ∃ id ∈ batch, id.canonical = key
  · obtain ⟨id, hid, rfl⟩ := hmem
    have hother : ∀ other ∈ others, other.canonical ≠ id.canonical := fun other hother =>
      (disjoint id hid other hother).symm
    rw [find?_merge_of_other hother, find?_merge, find?_merge, find?_merge_of_other hother]
  · have hother : ∀ id ∈ batch, id.canonical ≠ key := fun id hid heq => hmem ⟨id, hid, heq⟩
    rw [find?_merge, find?_merge_of_other hother, find?_merge_of_other hother, find?_merge]

/-- Calls about different components can be heard in any order. -/
theorem hearAll_perm {others : List Call} (perm : calls.Perm others)
    (disjoint : calls.Pairwise fun c d =>
      ∀ id ∈ c.batch, ∀ other ∈ d.batch, id.canonical ≠ other.canonical) (r : Register) :
    r.hearAll limit calls = r.hearAll limit others := by
  have : Std.Symm fun c d : Call =>
      ∀ id ∈ c.batch, ∀ other ∈ d.batch, id.canonical ≠ other.canonical :=
    ⟨fun _ _ h id hid other hother => (h other hother id hid).symm⟩
  have hcomm : ∀ c ∈ calls, ∀ d ∈ calls, ∀ r : Register,
      (r.hear limit c).hear limit d = (r.hear limit d).hear limit c := by
    intro c hc d hd r
    rcases eq_or_ne c d with rfl | hne
    · rfl
    · exact merge_comm (disjoint.forall hc hd hne) r _ _
  exact perm.foldl_eq' hcomm r

end calls

/-! ## The account of a merge -/

/-- Where all components of a batch are entered, merging what a call about them found keeps the
keys, the ids of all entries and the entries of all other components. The entry of a component of
the batch gains the observations about it, in their order, so that all observations stand under
their own component if they did before. What is not added is warned of: additions and warnings
together are as many as the observations that were found. Merges of batches without a common
component can be exchanged. -/
theorem merge_accounts_for_found (r : Register) (batch : List ComponentId)
    (entered : ∀ id ∈ batch, r.contains id.canonical = true) (found : List Observation)
    (provider : String) :
    (r.merge batch found).keys = r.keys ∧
    (∀ key, ((r.merge batch found).find? key).map (·.id) = (r.find? key).map (·.id)) ∧
    (∀ key, (∀ id ∈ batch, id.canonical ≠ key) →
      (r.merge batch found).find? key = r.find? key) ∧
    (∀ id ∈ batch, ∃ e, r.find? id.canonical = some e ∧
      (r.merge batch found).find? id.canonical =
        some { e with observations := e.observations ++ found.filter (·.id.sameAs id) }) ∧
    (r.IsFiled → (r.merge batch found).IsFiled) ∧
    (r.merge batch found).observations.length + (strayEvents provider batch found).length =
      r.observations.length + found.length ∧
    ((strayEvents provider batch found).map (fun event => (event.level, event.message)) =
      (found.filter fun o => !o.id.isIn batch).map fun o =>
        (.warn, provider ++ " answered for " ++ o.id.canonical ++
          ", which was not asked for; ignoring.")) ∧
    ∀ (others : List ComponentId) (more : List Observation),
      (∀ id ∈ batch, ∀ other ∈ others, id.canonical ≠ other.canonical) →
      (r.merge batch found).merge others more = (r.merge others more).merge batch found := by
  refine ⟨keys_merge r batch found, map_id_find?_merge r batch found,
    fun key other => find?_merge_of_other other found, ?_, fun filed => filed.merge batch found,
    accounts_merge entered found provider, ?_,
    fun others more disjoint => merge_comm disjoint r found more⟩
  · intro id hid
    obtain ⟨e, he⟩ := contains_iff.1 (entered id hid)
    refine ⟨e, he, ?_⟩
    rw [find?_merge_of_mem hid, he]
    rfl
  · rw [strayEvents, List.map_map]
    exact List.map_congr_left fun o _ => rfl

/-- Of three observations two are about the component that was asked for, and are added; the third
one is about a component with an entry of its own, and is warned of. -/
theorem merge_accounts_for_found_of_stray_answer :
    let id (name : String) : ComponentId := .located ⟨"npm", "npmjs", none, name, "1"⟩
    let statement (name license : String) : Observation :=
      ⟨id name, license, 90, .approved, "#1", none⟩
    let r : Register := (Register.ofIds [id "a", id "b"]).record (statement "b" "EPL-2.0")
    let found := [statement "a" "MIT", statement "b" "ISC", statement "a" "0BSD"]
    (∀ asked ∈ [id "a"], r.contains asked.canonical = true) ∧ r.IsFiled ∧
      (r.merge [id "a"] found).keys = ["npm/npmjs/-/a/1", "npm/npmjs/-/b/1"] ∧
      (r.merge [id "a"] found).find? "npm/npmjs/-/b/1" =
        some ⟨id "b", [statement "b" "EPL-2.0"]⟩ ∧
      (r.merge [id "a"] found).find? "npm/npmjs/-/a/1" =
        some ⟨id "a", [statement "a" "MIT", statement "a" "0BSD"]⟩ ∧
      (r.merge [id "a"] found).IsFiled ∧
      (strayEvents "table" [id "a"] found).map (fun event => (event.level, event.message)) =
        [(.warn, "table answered for npm/npmjs/-/b/1, which was not asked for; ignoring.")] ∧
      (r.merge [id "a"] found).merge [id "b"] found =
        (r.merge [id "b"] found).merge [id "a"] found := by
  intro id statement r found
  have entered : ∀ asked ∈ [id "a"], r.contains asked.canonical = true := by decide +kernel
  have filed : r.IsFiled := by decide +kernel
  obtain ⟨hkeys, -, hother, hadded, hfiled, -, hwarned, hcomm⟩ :=
    merge_accounts_for_found r [id "a"] entered found "table"
  refine ⟨entered, filed, ?_, ?_, ?_, hfiled filed, ?_, hcomm [id "b"] found (by decide +kernel)⟩
  · rw [hkeys]
    decide +kernel
  · rw [hother _ (by decide +kernel)]
    decide +kernel
  · obtain ⟨e, he, hmerged⟩ := hadded (id "a") List.mem_cons_self
    have hempty : r.find? (id "a").canonical = some ⟨id "a", []⟩ := by decide +kernel
    rw [hempty] at he
    cases he
    exact hmerged.trans (by decide +kernel)
  · rw [hwarned]
    decide +kernel

end Register

end Clearance
