import Clearance.Proofs.Text.Order
import Clearance.Report.Tally

/-!
# The most frequent licenses

A license summary names the labels that occur most often (`Register.licenseSummary_names_topThree`):
no label that it leaves out is ahead of one that it names, and labels that occur equally often are
told apart by their bytes, so nothing is left to chance.

The numbers of a tally can be had by a loop that raises the count of one label after the other in a
map whose pairs come in no particular order (`Counted`). Whatever that order is, the map ends with
the same pairs (`IsTally.perm`), and these can be sorted in one way only, since no two different
pairs are level (`precedes_antisymm`).
-/

set_option autoImplicit false

namespace Clearance

namespace Tally

/-! ## The order of the pairs -/

/-- `a` has the greater count, or the same count and the lesser label. -/
def Ahead (a b : Count) : Prop :=
  b.2 < a.2 ∨ a.2 = b.2 ∧ Text.utf8 a.1 < Text.utf8 b.1

instance : DecidableRel Ahead :=
  fun a b => inferInstanceAs (Decidable (b.2 < a.2 ∨ a.2 = b.2 ∧ Text.utf8 a.1 < Text.utf8 b.1))

/-- The higher number precedes, and with the same number the label that comes first. -/
theorem precedes_iff {a b : Count} :
    precedes a b = true ↔ b.2 < a.2 ∨ a.2 = b.2 ∧ a.1 ≤ b.1 := by
  simp only [precedes, Bool.or_eq_true, Bool.and_eq_true, Bool.not_eq_true', decide_eq_true_eq,
    decide_eq_false_iff_not, beq_iff_eq, not_lt, gt_iff_lt]

/-- The order of the counts is transitive. -/
theorem precedes_trans (a b c : Count) (hab : precedes a b = true) (hbc : precedes b c = true) :
    precedes a c = true := by
  rw [precedes_iff] at hab hbc ⊢
  rcases hab with hab | ⟨hab, hle⟩ <;> rcases hbc with hbc | ⟨hbc, hle'⟩
  · exact Or.inl (hbc.trans hab)
  · exact Or.inl (hbc ▸ hab)
  · exact Or.inl (hab ▸ hbc)
  · exact Or.inr ⟨hab.trans hbc, hle.trans hle'⟩

/-- Of two counts one precedes the other. -/
theorem precedes_total (a b : Count) : (precedes a b || precedes b a) = true := by
  rw [Bool.or_eq_true, precedes_iff, precedes_iff]
  rcases lt_trichotomy a.2 b.2 with hlt | heq | hgt
  · exact Or.inr (Or.inl hlt)
  · exact (le_total a.1 b.1).imp (fun hle => Or.inr ⟨heq, hle⟩) fun hle => Or.inr ⟨heq.symm, hle⟩
  · exact Or.inl (Or.inl hgt)

/-- No two different pairs are level. -/
theorem precedes_antisymm {a b : Count} (hab : precedes a b = true) (hba : precedes b a = true) :
    a = b := by
  rw [precedes_iff] at hab hba
  obtain ⟨heq, hle⟩ : a.2 = b.2 ∧ a.1 ≤ b.1 := hab.resolve_left fun hlt => by omega
  obtain ⟨-, hge⟩ : b.2 = a.2 ∧ b.1 ≤ a.1 := hba.resolve_left fun hlt => by omega
  exact Prod.ext (le_antisymm hle hge) heq

/-- A count is ahead of all that it precedes but itself. -/
theorem ahead_of_precedes {a b : Count} (h : precedes a b = true) (ne : a ≠ b) : Ahead a b := by
  rcases precedes_iff.1 h with hlt | ⟨heq, hle⟩
  · exact Or.inl hlt
  · refine Or.inr ⟨heq, Text.lt_iff_utf8_lt.1 (lt_of_le_of_ne hle fun hlabel => ne ?_)⟩
    exact Prod.ext hlabel heq

/-- The order in which the counts come makes no difference to the sorted ones. -/
theorem mergeSort_precedes_congr {pairs pairs' : List Count} (h : pairs.Perm pairs') :
    pairs.mergeSort precedes = pairs'.mergeSort precedes :=
  List.Perm.eq_of_pairwise (fun _ _ _ _ hab hba => precedes_antisymm hab hba)
    (List.pairwise_mergeSort precedes_trans precedes_total _)
    (List.pairwise_mergeSort precedes_trans precedes_total _)
    (((List.mergeSort_perm _ _).trans h).trans (List.mergeSort_perm _ _).symm)

/-! ## Tallies -/

/-- The pairs are the labels with the numbers of their occurrences, each label once. -/
structure IsTally (labels : List String) (pairs : List Count) : Prop where
  distinct : (pairs.map (·.1)).Nodup
  mem_iff : ∀ label n, (label, n) ∈ pairs ↔ n = labels.count label ∧ 0 < n

namespace IsTally

variable {labels : List String} {pairs pairs' : List Count}

/-- No count is there twice. -/
theorem nodup (h : IsTally labels pairs) : pairs.Nodup := h.distinct.of_map _

/-- The labels and the numbers of their occurrences leave only the order open. -/
theorem perm (h : IsTally labels pairs) (h' : IsTally labels pairs') : pairs.Perm pairs' :=
  (List.perm_ext_iff_of_nodup h.nodup h'.nodup).2 fun p =>
    (h.mem_iff p.1 p.2).trans (h'.mem_iff p.1 p.2).symm

/-- Counts in another order are a tally, too. -/
theorem of_perm (h : IsTally labels pairs) (hperm : pairs'.Perm pairs) : IsTally labels pairs' where
  distinct := (hperm.map _).nodup_iff.2 h.distinct
  mem_iff label n := hperm.mem_iff.trans (h.mem_iff label n)

/-- A label is counted exactly if it occurs. -/
theorem mem_labels_iff (h : IsTally labels pairs) (label : String) :
    label ∈ pairs.map (·.1) ↔ 0 < labels.count label := by
  simp only [List.mem_map, Prod.exists, h.mem_iff]
  constructor
  · rintro ⟨_, n, ⟨rfl, hpos⟩, rfl⟩
    exact hpos
  · exact fun hpos => ⟨label, _, ⟨rfl, hpos⟩, rfl⟩

/-- There are as many counts as different labels. -/
theorem length_eq (h : IsTally labels pairs) :
    pairs.length = {label | 0 < labels.count label}.ncard := by
  have hset : {label | 0 < labels.count label} = ((pairs.map (·.1)).toFinset : Set String) := by
    ext label
    rw [Finset.mem_coe, List.mem_toFinset, h.mem_labels_iff, Set.mem_ofPred_eq]
  rw [hset, Set.ncard_coe_finset, List.toFinset_card_of_nodup h.distinct, List.length_map]

end IsTally

/-- Without repetitions each label is there once. -/
theorem nodup_eraseDups : ∀ labels : List String, labels.eraseDups.Nodup
  | [] => List.nodup_nil
  | label :: labels => by
    rw [List.eraseDups_cons, List.nodup_cons]
    exact ⟨by simp, nodup_eraseDups _⟩
termination_by labels => labels.length
decreasing_by exact Nat.lt_succ_of_le (List.length_filter_le _ _)

/-- The counts of the labels are a tally of them. -/
theorem isTally_counts (labels : List String) : IsTally labels (counts labels) where
  distinct := by
    rw [counts, List.map_map]
    simpa [Function.comp_def] using nodup_eraseDups labels
  mem_iff label n := by
    simp only [counts, List.mem_map, List.mem_eraseDups, Prod.mk.injEq]
    constructor
    · rintro ⟨_, hmem, rfl, rfl⟩
      exact ⟨rfl, List.count_pos_iff.2 hmem⟩
    · rintro ⟨rfl, hpos⟩
      exact ⟨label, List.count_pos_iff.1 hpos, rfl, rfl⟩

/-! ## Counting -/

/-- The pairs with the count of a label raised by one. -/
def bump (label : String) : List Count → List Count
  | [] => [(label, 1)]
  | (other, n) :: pairs =>
    if other = label then (other, n + 1) :: pairs else (other, n) :: bump label pairs

/-- The pairs that a map may come to hold where the labels are counted one by one. After each of
them the map may present its pairs in any order. -/
inductive Counted : List String → List Count → Prop
  | nil : Counted [] []
  | snoc {labels : List String} {pairs pairs' : List Count} (label : String)
      (counted : Counted labels pairs) (any : pairs'.Perm (bump label pairs)) :
      Counted (labels ++ [label]) pairs'

/-- A label that is counted for the first time comes behind the others. -/
theorem map_fst_bump (label : String) (pairs : List Count) :
    (bump label pairs).map (·.1) =
      if label ∈ pairs.map (·.1) then pairs.map (·.1) else pairs.map (·.1) ++ [label] := by
  induction pairs with
  | nil => rfl
  | cons p pairs ih =>
    rw [bump]
    by_cases hlabel : p.1 = label
    · rw [if_pos hlabel, if_pos (by simp [hlabel])]
      rfl
    · rw [if_neg hlabel, List.map_cons, ih]
      simp only [List.map_cons, List.mem_cons, Ne.symm hlabel, false_or]
      split <;> rfl

/-- The count of the label goes up, and no other. -/
theorem mem_bump_iff {label : String} {pairs : List Count}
    (distinct : (pairs.map (·.1)).Nodup) {other : String} {n : ℕ} :
    (other, n) ∈ bump label pairs ↔
      if other = label then
        (∃ m, (label, m) ∈ pairs ∧ n = m + 1) ∨ label ∉ pairs.map (·.1) ∧ n = 1
      else (other, n) ∈ pairs := by
  induction pairs with
  | nil => simp [bump]
  | cons p pairs ih =>
    obtain ⟨first, k⟩ := p
    obtain ⟨hfirst, hrest⟩ := List.nodup_cons.1 distinct
    have ih := ih hrest
    -- The first label does not come again, so the count of one pair at most goes up.
    by_cases hlabel : first = label
    · subst hlabel
      rw [bump, if_pos rfl]
      grind
    · rw [bump, if_neg hlabel]
      grind

/-- Counting one more label. -/
theorem IsTally.bump {labels : List String} {pairs : List Count} (h : IsTally labels pairs)
    (label : String) : IsTally (labels ++ [label]) (bump label pairs) where
  distinct := by
    rw [map_fst_bump]
    split
    · exact h.distinct
    · next hnew =>
      exact List.nodup_append'.2 ⟨h.distinct, List.nodup_singleton _, by simpa using hnew⟩
  mem_iff other n := by
    have hcount : (labels ++ [label]).count other =
        labels.count other + if other = label then 1 else 0 := by
      rw [List.count_append, List.count_singleton]
      simp only [beq_iff_eq, @eq_comm _ label]
    rw [mem_bump_iff h.distinct, hcount, h.mem_labels_iff]
    simp only [h.mem_iff]
    split
    · next heq =>
      subst heq
      constructor
      · rintro (⟨m, ⟨rfl, -⟩, rfl⟩ | ⟨hnone, rfl⟩) <;> omega
      · rintro ⟨rfl, -⟩
        rcases Nat.eq_zero_or_pos (labels.count other) with hzero | hpos
        · exact Or.inr (by omega)
        · exact Or.inl ⟨_, ⟨rfl, hpos⟩, rfl⟩
    · rw [add_zero]

/-- Counting the labels one by one comes to their tally. -/
theorem Counted.isTally {labels : List String} {pairs : List Count} (h : Counted labels pairs) :
    IsTally labels pairs := by
  induction h with
  | nil => exact ⟨List.nodup_nil, by simp⟩
  | snoc label _ any ih => exact (ih.bump label).of_perm any

/-- The counts of a tally are some that the counting can come to. -/
theorem counted_counts (labels : List String) : Counted labels (counts labels) := by
  induction labels using List.reverseRecOn with
  | nil => exact .nil
  | append_singleton labels label ih =>
    exact .snoc label ih ((isTally_counts _).perm ((isTally_counts labels).bump label))

/-- A count precedes what it is ahead of. -/
theorem precedes_of_ahead {a b : Count} (h : Ahead a b) : precedes a b = true :=
  precedes_iff.2 (h.imp_right fun same => ⟨same.1, (Text.lt_iff_utf8_lt.2 same.2).le⟩)

/-- Whatever the counting comes to, sorting it leads to the same first three. -/
theorem Counted.topThree_eq {labels : List String} {pairs : List Count}
    (h : Counted labels pairs) : (pairs.mergeSort precedes).take 3 = topThree labels := by
  rw [topThree, mergeSort_precedes_congr (h.isTally.perm (isTally_counts labels))]

/-- The pairs can be put in order in one way only. -/
theorem Counted.take_eq {labels : List String} {pairs sorted : List Count}
    (h : Counted labels pairs) (perm : sorted.Perm pairs) (ordered : sorted.Pairwise Ahead) :
    sorted.take 3 = topThree labels := by
  have hsorted : sorted = pairs.mergeSort precedes :=
    List.Perm.eq_of_pairwise (fun _ _ _ _ hab hba => precedes_antisymm hab hba)
      (ordered.imp precedes_of_ahead) (List.pairwise_mergeSort precedes_trans precedes_total _)
      (perm.trans (List.mergeSort_perm _ _).symm)
  rw [hsorted, h.topThree_eq]

/-! ## The first three -/

/-- The labels are those that `number` counts most often, at most three of them. -/
structure IsTopThree (number : String → ℕ) (top : List Count) : Prop where
  length : top.length = min 3 {label | 0 < number label}.ncard
  distinct : (top.map (·.1)).Nodup
  exact : ∀ p ∈ top, p.2 = number p.1 ∧ 0 < p.2
  ordered : top.Pairwise Ahead
  first : ∀ label ∉ top.map (·.1), ∀ p ∈ top, Ahead p (label, number label)

/-- The first three counts are the top three. -/
theorem isTopThree_topThree (labels : List String) :
    IsTopThree (fun label => labels.count label) (topThree labels) := by
  have htally := (isTally_counts labels).of_perm (List.mergeSort_perm _ precedes)
  have hahead : ((counts labels).mergeSort precedes).Pairwise Ahead :=
    ((List.pairwise_mergeSort precedes_trans precedes_total _).and htally.nodup).imp
      fun h => ahead_of_precedes h.1 h.2
  have hsub : (topThree labels).Sublist ((counts labels).mergeSort precedes) :=
    List.take_sublist _ _
  have hexact (p : Count) (hp : p ∈ topThree labels) : p.2 = labels.count p.1 ∧ 0 < p.2 :=
    (htally.mem_iff p.1 p.2).1 (hsub.subset hp)
  refine ⟨?_, htally.distinct.sublist (hsub.map _), hexact, hahead.sublist hsub,
    fun label hleft p hp => ?_⟩
  · rw [topThree, List.length_take, htally.length_eq]
  · rcases Nat.eq_zero_or_pos (labels.count label) with hzero | hpos
    · rw [hzero]
      exact Or.inl (hexact p hp).2
    · -- A label that occurs and is left out stands behind the first three.
      have hmem := (htally.mem_iff label _).2 ⟨rfl, hpos⟩
      rw [← List.take_append_drop 3 ((counts labels).mergeSort precedes)] at hahead hmem
      refine (List.pairwise_append.1 hahead).2.2 p hp _ ((List.mem_append.1 hmem).resolve_left ?_)
      exact fun htop => hleft (List.mem_map_of_mem htop)

/-- There is no count exactly if there is no label. -/
theorem topThree_eq_nil_iff {labels : List String} : topThree labels = [] ↔ labels = [] := by
  rw [topThree, List.take_eq_nil_iff, or_iff_right (by decide), ← List.length_eq_zero_iff,
    List.length_mergeSort, counts, List.length_map, List.length_eq_zero_iff]
  simp only [List.eq_nil_iff_forall_not_mem, List.mem_eraseDups]

end Tally

/-- The license that is shown for an entry: that of its leading observation, or else nothing is
known of it. -/
def Entry.shownLicense (e : Entry) : String :=
  match e.leading? with
  | none => "unknown"
  | some o => if o.license = "" then "unknown" else o.license

/-- The license that is shown is the label that is counted. -/
theorem Entry.shownLicense_eq (e : Entry) : e.shownLicense = e.licenseLabel := by
  unfold shownLicense licenseLabel license?
  cases e.leading? with
  | none => rfl
  | some o => by_cases h : o.license = "" <;> simp [Option.filter, h]

namespace Register

/-- The licenses that are shown for the entries with a status. -/
def shownLicenses (r : Register) (s : Status) : List String :=
  (r.entries.filter (·.status == s)).map (·.shownLicense)

/-- How often a license is shown for the entries with a status. -/
def occurrences (r : Register) (s : Status) (label : String) : ℕ :=
  r.entries.countP fun e => e.status == s && e.shownLicense == label

/-- A license occurs among those that are shown as often as it is counted. -/
theorem count_shownLicenses (r : Register) (s : Status) (label : String) :
    (r.shownLicenses s).count label = r.occurrences s label := by
  rw [shownLicenses, List.count_eq_countP, List.countP_map, List.countP_filter, occurrences]
  refine List.countP_congr fun e _ => ?_
  simp [and_comm]

/-- The summary lists the top three with their numbers, in brackets, or is empty. -/
theorem licenseSummary_eq (r : Register) (s : Status) :
    r.licenseSummary s =
      if Tally.topThree (r.shownLicenses s) = [] then ""
      else
        "[" ++ ", ".intercalate ((Tally.topThree (r.shownLicenses s)).map fun p =>
          p.1 ++ " (" ++ toString p.2 ++ ")") ++ "]" := by
  have hlabels : (r.withStatus s).map (·.licenseLabel) = r.shownLicenses s := by
    simp only [← Entry.shownLicense_eq]
    rfl
  rw [licenseSummary, hlabels]
  cases Tally.topThree (r.shownLicenses s) <;> rfl

/-- The summary is empty exactly if no entry has the status. -/
theorem licenseSummary_eq_empty_iff (r : Register) (s : Status) :
    r.licenseSummary s = "" ↔ ∀ e ∈ r.entries, e.status ≠ s := by
  have hnone : Tally.topThree (r.shownLicenses s) = [] ↔ ∀ e ∈ r.entries, e.status ≠ s := by
    rw [Tally.topThree_eq_nil_iff, shownLicenses, List.map_eq_nil_iff, List.filter_eq_nil_iff]
    simp
  rw [licenseSummary_eq, ← hnone]
  split
  · next h => simp [h]
  · next h => simp [h]

/-- The summary names the labels that occur most often, with the numbers of their occurrences in
parentheses. They are counted one by one, and the order of the pairs in which that is done makes no
difference: the first three are the same, however the pairs are put in order. -/
theorem licenseSummary_names_topThree (r : Register) (s : Status) :
    ∃ top, r.licenseSummary s =
        (if top = [] then ""
        else "[" ++ ", ".intercalate (top.map fun p => p.1 ++ " (" ++ toString p.2 ++ ")") ++ "]") ∧
      Tally.IsTopThree (r.occurrences s) top ∧
      (let labels := (r.entries.filter (·.status == s)).map (·.shownLicense)
      Tally.Counted labels (Tally.counts labels) ∧
        ∀ pairs, Tally.Counted labels pairs → (pairs.mergeSort Tally.precedes).take 3 = top ∧
          ∀ sorted : List Tally.Count, sorted.Perm pairs → sorted.Pairwise Tally.Ahead →
            sorted.take 3 = top) ∧
      (r.licenseSummary s = "" ↔ ∀ e ∈ r.entries, e.status ≠ s) := by
  refine ⟨_, r.licenseSummary_eq s, ?_,
    ⟨Tally.counted_counts _, fun pairs counted => ⟨counted.topThree_eq, fun sorted => ?_⟩⟩,
    r.licenseSummary_eq_empty_iff s⟩
  · have htop := Tally.isTopThree_topThree (r.shownLicenses s)
    simpa only [count_shownLicenses] using htop
  · exact counted.take_eq

/-- Of four licenses that are shown for approved entries, one is left out: it is shown as often as
two others, but is the last of them by its bytes. No entry is restricted. -/
theorem licenseSummary_names_topThree_of_four_licenses :
    let id (name : String) : ComponentId := .located ⟨"npm", "npmjs", none, name, "1"⟩
    let entry (name license : String) : Entry :=
      { id := id name, observations := [⟨id name, license, 90, .approved, "#1", none⟩] }
    let r : Register :=
      ⟨[("npm/npmjs/-/a/1", entry "a" ""), ("npm/npmjs/-/b/1", entry "b" "MIT"),
        ("npm/npmjs/-/c/1", entry "c" "ISC"), ("npm/npmjs/-/d/1", entry "d" "MIT"),
        ("npm/npmjs/-/e/1", entry "e" "0BSD"), ("npm/npmjs/-/f/1", { id := id "f" })],
        by decide +kernel⟩
    r.licenseSummary .approved = "[MIT (2), 0BSD (1), ISC (1)]" ∧
      Tally.IsTopThree (r.occurrences .approved) [("MIT", 2), ("0BSD", 1), ("ISC", 1)] ∧
      r.occurrences .approved "unknown" = 1 ∧ r.licenseSummary .restricted = "" := by
  intro id entry r
  obtain ⟨top, htext, htop, ⟨hcounted, hsame⟩, -⟩ := r.licenseSummary_names_topThree .approved
  obtain ⟨-, -, -, -, hnone⟩ := r.licenseSummary_names_topThree .restricted
  let sorted : List Tally.Count := [("MIT", 2), ("0BSD", 1), ("ISC", 1), ("unknown", 1)]
  obtain rfl : sorted.take 3 = top :=
    (hsame _ hcounted).2 sorted (by decide +kernel) (by decide +kernel)
  exact ⟨htext.trans (by decide +kernel), htop, by decide +kernel,
    hnone.2 (by decide +kernel)⟩

end Register

end Clearance
