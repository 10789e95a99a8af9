import Clearance.Proofs.Register
import Mathlib.Data.List.Induction

/-!
# What an entry reports

The status of an entry says whether any of its observations approves the component. The license, the
authority and the link come from one observation, which leads the entry: the best one that approves
(`IsBestAt`), or else the last one (`LeadsAt`).

An entry grows by one observation at a time. `best?_concat` says what one more does to the best
approval, and all that is said of a whole sequence follows from it by induction on what was added
last.
-/

set_option autoImplicit false

namespace Clearance

/-- The place of a status in the order from unresolved to approved. -/
def Status.rank : Status → Nat
  | .unresolved => 0
  | .restricted => 1
  | .approved => 2

namespace Entry

/-- The entry of a component to which these observations were added, one after the other. -/
def ofObservations (id : ComponentId) (seen : List Observation) : Entry := seen.foldl add { id }

/-- Observations that are added one after the other are added together. -/
theorem foldl_add (e : Entry) (more : List Observation) : more.foldl add e = e.addAll more := by
  induction more generalizing e with
  | nil => rw [List.foldl_nil, addAll_nil]
  | cons o more ih => rw [List.foldl_cons, ih, add_eq_addAll, addAll_addAll, List.singleton_append]

/-- The entry of some observations holds just these. -/
theorem observations_ofObservations (id : ComponentId) (seen : List Observation) :
    (ofObservations id seen).observations = seen := by
  rw [ofObservations, foldl_add]
  rfl

/-! ## The status -/

section status

variable {e : Entry}

/-- An entry is approved exactly if one of its observations approves it. -/
theorem status_eq_approved_iff_exists :
    e.status = .approved ↔ ∃ o ∈ e.observations, o.verdict = .approved := by
  rw [status_eq_approved_iff, List.any_eq_true]
  simp only [beq_iff_eq]

/-- An entry is unresolved exactly if it holds no observation. -/
theorem status_eq_unresolved_iff : e.status = .unresolved ↔ e.observations = [] := by
  unfold status
  cases e.observations with
  | nil => exact iff_of_true rfl rfl
  | cons o others =>
    refine iff_of_false ?_ (List.cons_ne_nil _ _)
    rw [List.isEmpty_cons, if_neg Bool.false_ne_true]
    split <;> decide

/-- All observations restrict the component exactly if the entry is not approved. -/
theorem forall_restricted_iff :
    (∀ o ∈ e.observations, o.verdict = .restricted) ↔ e.status ≠ .approved := by
  rw [Ne, status_eq_approved_iff_exists, not_exists]
  constructor
  · rintro h o ⟨ho, happroved⟩
    rw [h o ho] at happroved
    cases happroved
  · intro h o ho
    cases hverdict : o.verdict with
    | approved => exact absurd ⟨ho, hverdict⟩ (h o)
    | restricted => rfl

/-- An entry is restricted exactly if there are observations and all of them restrict it. -/
theorem status_eq_restricted_iff :
    e.status = .restricted ↔
      e.observations ≠ [] ∧ ∀ o ∈ e.observations, o.verdict = .restricted := by
  rw [forall_restricted_iff, Ne, ← status_eq_unresolved_iff]
  cases e.status <;> decide

/-- The order of the observations makes no difference to the status. -/
theorem status_perm {f : Entry} (h : e.observations.Perm f.observations) : f.status = e.status := by
  rw [status, status, h.any_eq, h.isEmpty_eq]

/-- Nothing that is added takes an approval away. -/
theorem status_addAll_of_approved (approved : e.status = .approved) (more : List Observation) :
    (e.addAll more).status = .approved := by
  obtain ⟨o, ho, happroved⟩ := status_eq_approved_iff_exists.1 approved
  exact status_eq_approved_iff_exists.2 ⟨o, List.mem_append_left more ho, happroved⟩

/-- More observations never lower the status. -/
theorem rank_status_le (e : Entry) (more : List Observation) :
    e.status.rank ≤ (e.addAll more).status.rank := by
  cases hstatus : e.status with
  | unresolved => exact Nat.zero_le _
  | approved =>
    exact Nat.le_of_eq (congrArg Status.rank (status_addAll_of_approved hstatus more).symm)
  | restricted =>
    have hsome : (e.addAll more).status ≠ .unresolved := by
      rw [Ne, status_eq_unresolved_iff, observations_addAll, List.append_eq_nil_iff, not_and]
      intro hnil
      exact absurd hnil (status_eq_restricted_iff.1 hstatus).1
    cases hafter : (e.addAll more).status with
    | approved => decide
    | restricted => exact Nat.le_refl _
    | unresolved => exact absurd hafter hsome

end status

/-! ## The best approval -/

/-- The approved observation with the highest score, the earliest of several. -/
def best? (seen : List Observation) : Option Observation :=
  (seen.filter (·.verdict == .approved)).foldl better none

/-- The observation at place `i` is approved, no other that is approved has a higher score, and none
with the same score comes before it. -/
structure IsBestAt (seen : List Observation) (i : Nat) (o : Observation) : Prop where
  here : seen[i]? = some o
  approved : o.verdict = .approved
  highest : ∀ other ∈ seen, other.verdict = .approved → other.score ≤ o.score
  earliest : ∀ j other, seen[j]? = some other → other.verdict = .approved →
    other.score = o.score → i ≤ j

section best

variable {seen : List Observation} {i : Nat} {o : Observation}

/-- One more observation is compared with the best one so far, if it approves the component. -/
theorem best?_concat (seen : List Observation) (o : Observation) :
    best? (seen ++ [o]) =
      if o.verdict = .approved then better (best? seen) o else best? seen := by
  rw [best?, List.filter_append, List.foldl_append]
  by_cases h : o.verdict = .approved
  · rw [if_pos h, List.filter_cons_of_pos (by simpa using h)]
    rfl
  · rw [if_neg h, List.filter_cons_of_neg (by simpa using h)]
    rfl

/-- The best one is among the observations. -/
theorem IsBestAt.mem (h : IsBestAt seen i o) : o ∈ seen := List.mem_of_getElem? h.here

/-- There is only one best observation. -/
theorem IsBestAt.unique (h : IsBestAt seen i o) {j : Nat} {p : Observation}
    (h' : IsBestAt seen j p) : j = i ∧ p = o := by
  have hscore : p.score = o.score :=
    UInt32.le_antisymm (h.highest p h'.mem h'.approved) (h'.highest o h.mem h.approved)
  have hplace : j = i := by
    apply Nat.le_antisymm
    · exact h'.earliest i o h.here h.approved hscore.symm
    · exact h.earliest j p h'.here h'.approved hscore
  subst hplace
  exact ⟨rfl, Option.some.inj (h'.here.symm.trans h.here)⟩

/-- The best one stays so where one more does not have a higher score. -/
theorem IsBestAt.concat (h : IsBestAt seen i o) {p : Observation}
    (notAbove : p.verdict = .approved → p.score ≤ o.score) : IsBestAt (seen ++ [p]) i o := by
  have hi : i < seen.length := (List.getElem?_eq_some_iff.1 h.here).1
  constructor
  · rw [List.getElem?_append_left hi]
    exact h.here
  · exact h.approved
  · intro other hother happroved
    rcases List.mem_append.1 hother with hold | hnew
    · exact h.highest other hold happroved
    · obtain rfl := List.mem_singleton.1 hnew
      exact notAbove happroved
  · intro j other hj happroved hscore
    by_cases hlt : j < seen.length
    · rw [List.getElem?_append_left hlt] at hj
      exact h.earliest j other hj happroved hscore
    · omega

/-- One more approved observation is the best one where all others have a lower score. -/
theorem isBestAt_concat_self {p : Observation} (approved : p.verdict = .approved)
    (above : ∀ other ∈ seen, other.verdict = .approved → other.score < p.score) :
    IsBestAt (seen ++ [p]) seen.length p := by
  constructor
  · exact List.getElem?_concat_length
  · exact approved
  · intro other hother happroved
    rcases List.mem_append.1 hother with hold | hnew
    · exact UInt32.le_of_lt (above other hold happroved)
    · obtain rfl := List.mem_singleton.1 hnew
      exact UInt32.le_refl _
  · intro j other hj happroved hscore
    apply Nat.le_of_not_lt
    intro hlt
    rw [List.getElem?_append_left hlt] at hj
    have hlower := above other (List.mem_of_getElem? hj) happroved
    rw [hscore] at hlower
    exact UInt32.lt_irrefl _ hlower

/-- Either all observations restrict the component, or `best?` finds the best one. -/
theorem best?_spec (seen : List Observation) :
    (best? seen = none ∧ ∀ o ∈ seen, o.verdict = .restricted) ∨
      ∃ i o, best? seen = some o ∧ IsBestAt seen i o := by
  induction seen using List.reverseRecOn with
  | nil => exact .inl ⟨rfl, by simp⟩
  | append_singleton seen p ih =>
    rw [best?_concat]
    cases hverdict : p.verdict with
    | restricted =>
      rw [if_neg (by decide)]
      rcases ih with ⟨hnone, hrestricted⟩ | ⟨i, o, hbest, hat⟩
      · refine .inl ⟨hnone, List.forall_mem_append.2 ⟨hrestricted, ?_⟩⟩
        exact List.forall_mem_singleton.2 hverdict
      · exact .inr ⟨i, o, hbest, hat.concat (by simp [hverdict])⟩
    | approved =>
      rw [if_pos rfl]
      right
      rcases ih with ⟨hnone, hrestricted⟩ | ⟨i, o, hbest, hat⟩
      · refine ⟨seen.length, p, by rw [hnone]; rfl, isBestAt_concat_self hverdict ?_⟩
        intro other hother happroved
        rw [hrestricted other hother] at happroved
        cases happroved
      · rw [hbest, better]
        split
        · next habove =>
          refine ⟨seen.length, p, rfl, isBestAt_concat_self hverdict ?_⟩
          intro other hother happroved
          exact UInt32.lt_of_le_of_lt (hat.highest other hother happroved) habove
        · next habove => exact ⟨i, o, rfl, hat.concat fun _ => UInt32.not_lt.1 habove⟩

end best

/-! ## The leading observation -/

/-- The observation at place `i` is the best one that approves the component, or the last one where
none does. -/
inductive LeadsAt (seen : List Observation) (i : Nat) (o : Observation) : Prop where
  | best (h : IsBestAt seen i o) : LeadsAt seen i o
  | last (restricted : ∀ other ∈ seen, other.verdict = .restricted) (here : seen[i]? = some o)
    (last : i + 1 = seen.length) : LeadsAt seen i o

section leading

variable {e : Entry} {seen : List Observation} {i : Nat} {o : Observation}

/-- There is only one leading observation. -/
theorem LeadsAt.unique (h : LeadsAt seen i o) {j : Nat} {p : Observation} (h' : LeadsAt seen j p) :
    j = i ∧ p = o := by
  have hmixed {i : Nat} {o : Observation} (hbest : IsBestAt seen i o)
      (hrestricted : ∀ other ∈ seen, other.verdict = .restricted) : False := by
    have happroved := hbest.approved
    rw [hrestricted o hbest.mem] at happroved
    cases happroved
  cases h with
  | best hbest =>
    cases h' with
    | best hbest' => exact hbest.unique hbest'
    | last restricted _ _ => exact (hmixed hbest restricted).elim
  | last restricted here last =>
    cases h' with
    | best hbest' => exact (hmixed hbest' restricted).elim
    | last _ here' last' =>
      obtain rfl : j = i := by omega
      exact ⟨rfl, Option.some.inj (here'.symm.trans here)⟩

/-- The best approval leads an entry, or else the last observation. -/
theorem leading?_eq (e : Entry) :
    e.leading? = (best? e.observations).or e.observations.getLast? := rfl

/-- An entry without observations has no leading one, and any other entry has one. -/
theorem leading?_spec (e : Entry) :
    (e.observations = [] ∧ e.leading? = none) ∨
      ∃ i o, LeadsAt e.observations i o ∧ e.leading? = some o := by
  rw [leading?_eq]
  rcases best?_spec e.observations with ⟨hnone, hrestricted⟩ | ⟨i, o, hbest, hat⟩
  · rw [hnone, Option.none_or]
    cases hlast : e.observations.getLast? with
    | none => exact .inl ⟨List.getLast?_eq_none_iff.1 hlast, rfl⟩
    | some o =>
      have hpos : 0 < e.observations.length := by
        apply List.length_pos_of_mem
        exact List.mem_of_getLast? hlast
      rw [List.getLast?_eq_getElem?] at hlast
      exact .inr ⟨_, o, .last hrestricted hlast (by omega), rfl⟩
  · exact .inr ⟨i, o, .best hat, by rw [hbest]; rfl⟩

/-- Restrictions that are added to an approved entry do not lead it. -/
theorem leading?_addAll_of_restricted (approved : e.status = .approved) {more : List Observation}
    (restricted : ∀ o ∈ more, o.verdict = .restricted) : (e.addAll more).leading? = e.leading? := by
  have hnone : more.filter (·.verdict == .approved) = [] := by
    rw [List.filter_eq_nil_iff]
    intro o ho
    rw [restricted o ho]
    decide
  have hbest : best? (e.observations ++ more) = best? e.observations := by
    rw [best?, List.filter_append, hnone, List.append_nil, best?]
  rw [leading?_eq, leading?_eq, observations_addAll, hbest]
  rcases best?_spec e.observations with ⟨-, hrestricted⟩ | ⟨i, o, hsome, -⟩
  · exact absurd approved (forall_restricted_iff.1 hrestricted)
  · rw [hsome, Option.some_or, Option.some_or]

/-- One more approved observation leads where its score is above those of all others that approve
the component. -/
theorem leading?_add_of_above (approved : o.verdict = .approved)
    (above : ∀ other ∈ e.observations, other.verdict = .approved → other.score < o.score) :
    (e.add o).leading? = some o := by
  rcases leading?_spec (e.add o) with ⟨hnil, -⟩ | ⟨i, p, hleads, hsome⟩
  · exact absurd hnil (by simp [add])
  · have hself : LeadsAt (e.add o).observations e.observations.length o :=
      .best (isBestAt_concat_self approved above)
    rw [hsome, (hself.unique hleads).2]

/-- An approval that is not above another one does not take the lead. -/
theorem leading?_add_of_not_above (approved : o.verdict = .approved) {other : Observation}
    (seen : other ∈ e.observations) (happroved : other.verdict = .approved)
    (notAbove : o.score ≤ other.score) : (e.add o).leading? = e.leading? := by
  rw [leading?_eq, leading?_eq, add, best?_concat, if_pos approved]
  rcases best?_spec e.observations with ⟨-, hrestricted⟩ | ⟨i, b, hbest, hat⟩
  · rw [hrestricted other seen] at happroved
    cases happroved
  · have hle : o.score ≤ b.score := UInt32.le_trans notAbove (hat.highest other seen happroved)
    rw [hbest, better, if_neg (UInt32.not_lt.2 hle)]
    rfl

/-- One more approved observation takes the lead exactly if its score is above those of all others
that approve the component. -/
theorem leading?_add_ne_iff (approved : o.verdict = .approved) :
    (e.add o).leading? ≠ e.leading? ↔
      ∀ other ∈ e.observations, other.verdict = .approved → other.score < o.score := by
  constructor
  · intro hne other hother happroved
    apply UInt32.not_le.1
    intro hle
    exact hne (leading?_add_of_not_above approved hother happroved hle)
  · intro habove heq
    rw [leading?_add_of_above approved habove] at heq
    rcases leading?_spec e with ⟨-, hnone⟩ | ⟨i, p, hleads, hsome⟩
    · rw [hnone] at heq
      cases heq
    · obtain rfl : o = p := Option.some.inj (heq.trans hsome)
      cases hleads with
      | best h => exact UInt32.lt_irrefl _ (habove o h.mem approved)
      | last restricted here _ =>
        rw [restricted o (List.mem_of_getElem? here)] at approved
        cases approved

end leading

/-- Entries report different observations if different ones are added to them. -/
theorem eq_of_forall_leading? {o p : Observation}
    (h : ∀ e : Entry, (e.add o).leading? = (e.add p).leading?) : o = p := by
  -- What is added to an entry without observations is reported, whatever its verdict.
  have halone : ∀ q : Observation, (add { id := o.id } q).leading? = some q := by
    intro q
    cases hverdict : q.verdict with
    | approved => simp [leading?, add, better, hverdict]
    | restricted => simp [leading?, add, hverdict]
  have hsame := h { id := o.id }
  rw [halone, halone] at hsame
  exact Option.some.inj hsame

/-- Whatever observations were added to an entry, its status is the best that any of them gives to
the component, in whatever order they came, and more of them never lower it. License, authority and
link are those of one observation, the leading one. Once the component is approved, observations
that restrict it change nothing that is reported, and one that approves it takes the lead exactly if
its score is above those of all others that do. -/
theorem reports_leading (id : ComponentId) (seen : List Observation) :
    let e := ofObservations id seen
    (e.status = .approved ↔ ∃ o ∈ seen, o.verdict = .approved) ∧
    (e.status = .unresolved ↔ seen = []) ∧
    (e.status = .restricted ↔ seen ≠ [] ∧ ∀ o ∈ seen, o.verdict = .restricted) ∧
    (∀ others, seen.Perm others → (ofObservations id others).status = e.status) ∧
    (∀ more : List Observation, e.status.rank ≤ (more.foldl add e).status.rank) ∧
    ((seen = [] ∧ e.leading? = none ∧ e.license? = none ∧ e.authority? = none ∧ e.url? = none) ∨
      ∃ i o, LeadsAt seen i o ∧ (∀ j p, LeadsAt seen j p → j = i ∧ p = o) ∧
        e.leading? = some o ∧ e.license? = some o.license ∧ e.authority? = some o.authority ∧
        e.url? = o.url) ∧
    (e.status = .approved → ∀ more : List Observation, (∀ o ∈ more, o.verdict = .restricted) →
      let f := more.foldl add e
      f.status = e.status ∧ f.leading? = e.leading? ∧ f.license? = e.license? ∧
        f.authority? = e.authority? ∧ f.url? = e.url?) ∧
    ∀ o : Observation, o.verdict = .approved →
      ((e.add o).leading? ≠ e.leading? ↔
        ∀ other ∈ seen, other.verdict = .approved → other.score < o.score) ∧
      ((e.add o).leading? = e.leading? ∨ (e.add o).leading? = some o) := by
  intro e
  have hseen : e.observations = seen := observations_ofObservations id seen
  -- What an entry reports depends on its observations alone, however it came by them.
  clear_value e
  subst hseen
  refine ⟨status_eq_approved_iff_exists, status_eq_unresolved_iff, status_eq_restricted_iff,
    ?_, ?_, ?_, ?_, ?_⟩
  · intro others hperm
    apply status_perm
    rw [observations_ofObservations]
    exact hperm
  · intro more
    rw [foldl_add]
    exact rank_status_le e more
  · rcases leading?_spec e with ⟨hnil, hnone⟩ | ⟨i, o, hleads, hsome⟩
    · refine .inl ⟨hnil, hnone, ?_, ?_, ?_⟩
      · rw [license?, hnone, Option.map_none]
      · rw [authority?, hnone, Option.map_none]
      · rw [url?, hnone, Option.bind_none]
    · refine .inr ⟨i, o, hleads, fun j p h => hleads.unique h, hsome, ?_, ?_, ?_⟩
      · rw [license?, hsome, Option.map_some]
      · rw [authority?, hsome, Option.map_some]
      · rw [url?, hsome, Option.bind_some]
  · intro happroved more hrestricted f
    have hmore : f = e.addAll more := foldl_add e more
    have hleading : f.leading? = e.leading? := by
      rw [hmore]
      exact leading?_addAll_of_restricted happroved hrestricted
    have hstatus : f.status = e.status := by
      rw [hmore, happroved]
      exact status_addAll_of_approved happroved more
    refine ⟨hstatus, hleading, ?_, ?_, ?_⟩
    · rw [license?, license?, hleading]
    · rw [authority?, authority?, hleading]
    · rw [url?, url?, hleading]
  · intro o happroved
    refine ⟨leading?_add_ne_iff happroved, ?_⟩
    by_cases habove :
        ∀ other ∈ e.observations, other.verdict = .approved → other.score < o.score
    · exact .inr (leading?_add_of_above happroved habove)
    · exact .inl (not_not.1 (mt (leading?_add_ne_iff happroved).1 habove))

end Entry

end Clearance
