import Clearance.Proofs.Resolution.Queries

/-!
# What observations rest on

A resolution believes nothing about a component but what a call found that was asked about it. Two
sides of this are shown, for any providers.

* If calls leave evidence of what they find in the world, and destroy none, then at the end there is
  evidence for every observation in the register, of a call to a provider about a batch with its
  component that this provider was asked about (`exists_evidence_of_resolve`). This also holds where
  a failure ends the resolution.
* What calls find about components outside their batch makes no difference. Providers that keep it
  to themselves (`Provider.confined`) are asked about the same batches and lead to the same world,
  the same outcome and the same register (`resolve_confined`).

Each is an invariant of the functions that a resolution consists of, from the start of a call up to
the round of providers.
-/

set_option autoImplicit false

namespace Clearance

universe u

variable {σ : Type u}

/-! ## Evidence -/

/-- What in a world is evidence that a call about a batch, to the provider at a position, has found
an observation. -/
abbrev Evidence (σ : Type u) := ℕ → σ → List ComponentId → Observation → Prop

variable {Q : Evidence σ} {past : List (List (List ComponentId))} {ids : List ComponentId}
  {p : Provider σ}

/-- Calls to the provider at a position leave evidence of what they find, and destroy none. -/
structure Provider.Leaves (p : Provider σ) (Q : Evidence σ) (i : ℕ) : Prop where
  keeps : ∀ j asked world batch o, Q j world batch o → Q j (p.query asked world).2 batch o
  finds : ∀ asked world, ∀ o ∈ (p.query asked world).1.found, Q i (p.query asked world).2 asked o

/-- For each observation of a register there is evidence of a call about a batch with its component,
which is one of those that the provider was asked about. -/
def Register.Backed (Q : Evidence σ) (asked : List (List (List ComponentId))) (world : σ)
    (r : Register) : Prop :=
  ∀ key e, r.find? key = some e → ∀ o ∈ e.observations, o.id.canonical = key ∧
    ∃ i batches, asked[i]? = some batches ∧
      ∃ batch ∈ batches, o.id.isIn batch = true ∧ Q i world batch o

/-- Evidence that is kept goes on to back the register, also where more has been asked. -/
theorem Register.Backed.mono {asked more : List (List (List ComponentId))} {world next : σ}
    {r : Register} (keeps : ∀ i batch o, Q i world batch o → Q i next batch o)
    (grows : ∀ (i : ℕ) (batches : List (List ComponentId)), asked[i]? = some batches →
      ∃ others, more[i]? = some others ∧ batches ⊆ others)
    (h : r.Backed Q asked world) : r.Backed Q more next := by
  intro key e he o ho
  obtain ⟨hkey, i, batches, hbatches, batch, hbatch, hin, hevidence⟩ := h key e he o ho
  obtain ⟨others, hothers, hsub⟩ := grows i batches hbatches
  exact ⟨hkey, i, others, hothers, batch, hsub hbatch, hin, keeps i batch o hevidence⟩

/-- What further providers are asked comes behind what was asked before. -/
theorem Register.Backed.append {asked : List (List (List ComponentId))} {world : σ} {r : Register}
    (h : r.Backed Q asked world) (more : List (List (List ComponentId))) :
    r.Backed Q (asked ++ more) world := by
  refine h.mono (fun _ _ _ hevidence => hevidence) fun i batches hbatches => ?_
  obtain ⟨hi, -⟩ := List.getElem?_eq_some_iff.1 hbatches
  exact ⟨batches, by rw [List.getElem?_append_left hi, hbatches], List.Subset.refl _⟩

/-- One more batch for the last provider. -/
theorem Register.Backed.concat {current : List (List ComponentId)} {world next : σ} {r : Register}
    (h : r.Backed Q (past ++ [current]) world)
    (keeps : ∀ i batch o, Q i world batch o → Q i next batch o) (batch : List ComponentId) :
    r.Backed Q (past ++ [current ++ [batch]]) next := by
  refine h.mono keeps fun i batches hbatches => ?_
  rcases Nat.lt_or_ge i past.length with hi | hi
  · rw [List.getElem?_append_left hi] at hbatches ⊢
    exact ⟨batches, hbatches, List.Subset.refl _⟩
  · rw [List.getElem?_append_right hi] at hbatches ⊢
    obtain ⟨hlast, rfl⟩ := List.getElem?_eq_some_iff.1 hbatches
    have hzero : i - past.length = 0 := Nat.lt_one_iff.1 hlast
    simp [hzero]

/-- What the last provider has found about a batch is merged. -/
theorem Register.Backed.merge {current : List (List ComponentId)} {world : σ} {r : Register}
    {batch : List ComponentId} {found : List Observation}
    (h : r.Backed Q (past ++ [current]) world) (asked : batch ∈ current)
    (evident : ∀ o ∈ found, Q past.length world batch o) :
    (r.merge batch found).Backed Q (past ++ [current]) world := by
  intro key e he o ho
  rw [find?_merge, Option.map_eq_some_iff] at he
  obtain ⟨before, hbefore, rfl⟩ := he
  rw [Entry.observations_addAll, List.mem_append, List.mem_filter] at ho
  rcases ho with hold | ⟨hfound, hkept⟩
  · exact h key before hbefore o hold
  · rw [Bool.and_eq_true, beq_iff_eq] at hkept
    exact ⟨hkept.2, past.length, current, List.getElem?_concat_length, batch, asked, hkept.1,
      evident o hfound⟩

namespace Progress

/-- There is evidence for what the register holds, and of the provider that is asked now for what
the calls in flight have found. -/
structure Backed (Q : Evidence σ) (past : List (List (List ComponentId))) (w : Window)
    (s : Progress σ) : Prop where
  merged : s.register.Backed Q (past ++ [s.asked]) s.world
  flying : ∀ call ∈ w.inFlight, call.batch ∈ s.asked ∧
    ∀ o ∈ call.answer.found, Q past.length s.world call.batch o

/-- A call that is given up has found nothing. -/
theorem found_within_subset (a : Answer) (limit : Duration) :
    (a.within limit).found ⊆ a.found := by
  unfold Answer.within
  split
  · exact List.nil_subset _
  · exact List.Subset.refl _

/-- A call that is started leaves its evidence. -/
theorem Backed.start {w : Window} {s : Progress σ} (leaves : p.Leaves Q past.length)
    (limit : Duration) (h : s.Backed Q past w) :
    (s.start p limit w).2.Backed Q past (s.start p limit w).1 := by
  obtain ⟨inFlight, waiting⟩ := w
  cases waiting with
  | nil => exact h
  | cons batch waiting =>
    refine ⟨h.merged.concat (fun i => leaves.keeps i batch s.world) batch, ?_⟩
    intro call hcall
    rcases List.mem_append.1 hcall with hold | hnew
    · obtain ⟨hasked, hevident⟩ := h.flying call hold
      exact ⟨List.mem_append_left _ hasked,
        fun o ho => leaves.keeps past.length batch s.world call.batch o (hevident o ho)⟩
    · obtain rfl := List.mem_singleton.1 hnew
      exact ⟨List.mem_append_right _ List.mem_cons_self, fun o ho =>
        leaves.finds batch s.world o (found_within_subset _ limit ho)⟩

/-- Filling the window starts calls. -/
theorem Backed.fill (leaves : p.Leaves Q past.length) (limit : Duration) (count : Nat)
    {w : Window} {s : Progress σ} (h : s.Backed Q past w) :
    (s.fill p limit count w).2.Backed Q past (s.fill p limit count w).1 := by
  induction count generalizing w s with
  | zero => exact h
  | succ count ih => exact ih (h.start leaves limit)

/-- What is handed over is merged or forgotten. -/
theorem Backed.handOver {call : Call} {inFlight : List Call} {waiting : List (List ComponentId)}
    {s : Progress σ} (h : s.Backed Q past ⟨call :: inFlight, waiting⟩) (provider : String)
    (mode : FailureMode) :
    (s.handOver provider mode call).1.Backed Q past ⟨inFlight, waiting⟩ := by
  obtain ⟨⟨hasked, hevident⟩, hflying⟩ := List.forall_mem_cons.1 h.flying
  unfold Progress.handOver
  split
  · exact ⟨h.merged.merge hasked hevident, hflying⟩
  · exact ⟨h.merged, hflying⟩
  · exact ⟨h.merged, hflying⟩

/-- The calls that are still in flight when a failure ends the resolution are forgotten. -/
theorem Backed.drain (leaves : p.Leaves Q past.length) (o : Options) (rounds : Nat) {w : Window}
    {s : Progress σ} (h : s.Backed Q past w) :
    (s.drain p o rounds w).1.Backed Q past ⟨[], []⟩ := by
  have hforget : ∀ {w : Window} {s : Progress σ}, s.Backed Q past w → s.Backed Q past ⟨[], []⟩ :=
    fun h => ⟨h.merged, by simp⟩
  induction rounds generalizing w s with
  | zero => exact hforget h
  | succ rounds ih =>
    obtain ⟨inFlight, waiting⟩ := w
    cases inFlight with
    | nil => exact hforget h
    | cons call inFlight =>
      have hhand := h.handOver p.name o.mode
      unfold Progress.drain
      dsimp only
      generalize s.handOver p.name o.mode call = result at hhand
      obtain ⟨s', failure?⟩ := result
      cases failure? with
      | some failure => exact hforget hhand
      | none => exact ih (hhand.start leaves o.timeout)

/-- Asking a provider about batches, from a window with nothing in flight. -/
theorem Backed.ask (leaves : p.Leaves Q past.length) (o : Options)
    (batches : List (List ComponentId)) {s : Progress σ} (h : s.Backed Q past ⟨[], []⟩) :
    (s.ask p o batches).1.Backed Q past ⟨[], []⟩ := by
  have hbegun : s.Backed Q past ⟨[], batches⟩ := ⟨h.merged, h.flying⟩
  exact (hbegun.fill leaves o.timeout _).drain leaves o batches.length

end Progress

namespace Resolution

variable {o : Options} (size_pos : 0 < o.batchSize) (ids : List ComponentId)

/-- A turn adds what its provider is asked to what those before it were asked. -/
theorem backed_turn (leaves : p.Leaves Q past.length) {s : Progress σ}
    (h : s.register.Backed Q past s.world) :
    (turn o size_pos ids p s).1.register.Backed Q (past ++ [(turn o size_pos ids p s).1.asked])
      (turn o size_pos ids p s).1.world := by
  unfold turn
  split
  · exact h.append [[]]
  · exact (Progress.Backed.ask leaves o _ ⟨h.append [[]], by simp⟩).merged

/-- The providers of a round have their positions behind those of the providers before it. -/
theorem backed_visit {providers : List (Provider σ)}
    (leaves : ∀ (i : ℕ) (p : Provider σ), providers[i]? = some p → p.Leaves Q (past.length + i))
    {s : Progress σ}
    (h : s.register.Backed Q past s.world) :
    (visit o size_pos ids providers s).register.Backed Q
      (past ++ (visit o size_pos ids providers s).asked)
      (visit o size_pos ids providers s).world := by
  induction providers generalizing s past with
  | nil => exact h.append []
  | cons p providers ih =>
    have hturn := backed_turn size_pos ids (leaves 0 p rfl) h
    rw [visit_cons]
    generalize turn o size_pos ids p s = result at hturn
    obtain ⟨s', failure?⟩ := result
    cases failure? with
    | some failure =>
      have hmore := hturn.append (providers.map fun _ => [])
      rwa [List.append_assoc] at hmore
    | none =>
      have hleaves : ∀ (i : ℕ) (other : Provider σ), providers[i]? = some other →
          other.Leaves Q ((past ++ [s'.asked]).length + i) := by
        intro i other hother
        rw [List.length_append, List.length_singleton, Nat.add_assoc, Nat.add_comm 1 i]
        exact leaves (i + 1) other hother
      have hrest := ih hleaves hturn
      rwa [List.append_assoc] at hrest

end Resolution

/-- All batches of a resolution are about the components of its list. -/
theorem mem_firstOccurrences_of_resolve {providers : List (Provider σ)} {o : Options} {world : σ}
    {r : Resolution σ} (resolved : resolve providers o ids world = .ok r) {i : ℕ}
    {batches : List (List ComponentId)} (asked : r.asked[i]? = some batches)
    {batch : List ComponentId} (mem : batch ∈ batches) {id : ComponentId} (h : id ∈ batch) :
    id ∈ ComponentId.firstOccurrences ids := by
  cases hrefusal : o.refusal? with
  | some refusal =>
    rw [resolve_of_refusal hrefusal] at resolved
    cases resolved
  | none =>
    obtain ⟨r', hresolve, -, -, hasked⟩ := resolve_asks_due hrefusal providers ids world
    rw [resolved] at hresolve
    obtain rfl := Except.ok.inj hresolve
    obtain ⟨before, -, hbatches, -⟩ := hasked i batches asked
    have hdue := hbatches.inOrder.subset (List.mem_flatten_of_mem mem h)
    exact (List.mem_filter.1 hdue).1

/-- At the end of a resolution there is evidence for every observation, of a call about a batch with
the component of its entry, to a provider that was asked about this batch. -/
theorem exists_evidence_of_resolve {providers : List (Provider σ)} {o : Options} {world : σ}
    {r : Resolution σ} (resolved : resolve providers o ids world = .ok r)
    (leaves : ∀ (i : ℕ) (p : Provider σ), providers[i]? = some p → p.Leaves Q i)
    {key : String} {e : Entry}
    (entry : r.register.find? key = some e) {obs : Observation} (h : obs ∈ e.observations) :
    e.id.canonical = key ∧ obs.id.canonical = key ∧
      ∃ i batches, r.asked[i]? = some batches ∧
        ∃ batch ∈ batches, e.id ∈ batch ∧ Q i r.world batch obs := by
  have hrequested : ∀ (i : ℕ) batches, r.asked[i]? = some batches → ∀ batch ∈ batches,
      batch ⊆ ComponentId.firstOccurrences ids := fun i batches hasked batch hbatch id hid =>
    mem_firstOccurrences_of_resolve resolved hasked hbatch hid
  cases hrefusal : o.refusal? with
  | some refusal =>
    rw [resolve_of_refusal hrefusal] at resolved
    cases resolved
  | none =>
    have hdistinct := ComponentId.pairwise_firstOccurrences ids
    have hsize := o.batchSize_pos hrefusal
    let start : Progress σ := ⟨.ofIds (ComponentId.firstOccurrences ids), world, [], []⟩
    rw [resolve_eq_visit hrefusal] at resolved
    obtain rfl := Except.ok.inj resolved
    have hempty : start.register.Backed Q [] world := by
      intro key e he o ho
      rw [Register.find?_ofIds hdistinct, Option.map_eq_some_iff] at he
      obtain ⟨id, -, rfl⟩ := he
      cases ho
    have hleaves : ∀ (i : ℕ) (p : Provider σ), providers[i]? = some p → p.Leaves Q (0 + i) := by
      simpa using leaves
    have hend := Resolution.backed_visit hsize (ComponentId.firstOccurrences ids) hleaves hempty
    obtain ⟨hkey, i, batches, hasked, batch, hbatch, hin, hevidence⟩ := hend key e entry obs h
    rw [List.nil_append] at hasked
    -- The entry is under an id of the list, and so is the component in the batch.
    obtain ⟨more, hmore⟩ := Resolution.extends_visit hsize (Options.concurrency_pos hrefusal)
      (ComponentId.firstOccurrences ids) providers start key
    rw [entry, Register.find?_ofIds hdistinct, Option.map_map] at hmore
    obtain ⟨id, hid, rfl⟩ := Option.map_eq_some_iff.1 hmore.symm
    have hcanonical : id.canonical = key := by simpa using List.find?_some hid
    obtain ⟨other, hother, hsame⟩ := ComponentId.isIn_iff.1 hin
    have heq : other = id := ComponentId.eq_of_canonical_eq hdistinct
      (hrequested i batches hasked batch hbatch hother)
      (List.mem_of_find?_eq_some hid) (by rw [hsame, hkey, hcanonical])
    exact ⟨hcanonical, hkey, i, batches, hasked, batch, hbatch, heq ▸ hother, hevidence⟩

/-! ## Strays -/

/-- The answer without what it says about components outside the batch. -/
def Answer.confined (a : Answer) (batch : List ComponentId) : Answer :=
  { a with found := a.found.filter fun o => o.id.isIn batch }

/-- The provider that keeps to the components that it is asked about. -/
def Provider.confined (p : Provider σ) : Provider σ where
  name := p.name
  query batch world := ((p.query batch world).1.confined batch, (p.query batch world).2)

/-- An answer that is given up can be confined before or after that. -/
theorem Answer.confined_within (a : Answer) (batch : List ComponentId) (limit : Duration) :
    (a.confined batch).within limit = (a.within limit).confined batch := by
  unfold within confined
  dsimp only
  split <;> rfl

/-- A register takes in no more than a confined answer holds. -/
theorem Register.merge_confined (r : Register) (batch : List ComponentId) (a : Answer) :
    r.merge batch (a.confined batch).found = r.merge batch a.found := by
  unfold merge Answer.confined
  rw [List.filter_filter]
  simp only [Bool.and_self]

/-- The call with what its answer says about its own batch. -/
def Call.confined (c : Call) : Call := { c with answer := c.answer.confined c.batch }

/-- The window with all calls in it confined. -/
def Window.confined (w : Window) : Window := { w with inFlight := w.inFlight.map Call.confined }

namespace Progress

/-- Two runs are at the same point, if their events are left aside. -/
structure Same (s t : Progress σ) : Prop where
  register : s.register = t.register
  world : s.world = t.world
  asked : s.asked = t.asked

/-- Runs at the same point start the same call. -/
theorem Same.start {s t : Progress σ} (h : Same s t) (p : Provider σ) (limit : Duration)
    (w : Window) :
    (t.start p.confined limit w.confined).1 = (s.start p limit w).1.confined ∧
      Same (s.start p limit w).2 (t.start p.confined limit w.confined).2 := by
  obtain ⟨inFlight, waiting⟩ := w
  cases waiting with
  | nil => exact ⟨rfl, h⟩
  | cons batch waiting =>
    simp only [Progress.start, Window.confined, Provider.confined, ← h.world,
      Answer.confined_within, List.map_append]
    refine ⟨rfl, h.register, rfl, ?_⟩
    simp only [Progress.report, h.asked]

/-- Runs at the same point fill their windows alike. -/
theorem Same.fill {s t : Progress σ} (h : Same s t) (p : Provider σ) (limit : Duration)
    (count : Nat) (w : Window) :
    (t.fill p.confined limit count w.confined).1 = (s.fill p limit count w).1.confined ∧
      Same (s.fill p limit count w).2 (t.fill p.confined limit count w.confined).2 := by
  induction count generalizing w s t with
  | zero => exact ⟨rfl, h⟩
  | succ count ih =>
    obtain ⟨hwindow, hsame⟩ := h.start p limit w
    unfold Progress.fill
    dsimp only
    rw [hwindow]
    exact ih hsame _

/-- Runs at the same point are so after they have handed over a call. -/
theorem Same.handOver {s t : Progress σ} (h : Same s t) (provider : String) (mode : FailureMode)
    (call : Call) :
    (t.handOver provider mode call.confined).2 = (s.handOver provider mode call).2 ∧
      Same (s.handOver provider mode call).1 (t.handOver provider mode call.confined).1 := by
  have hfailure : call.confined.answer.failure? = call.answer.failure? := rfl
  have hmerge : t.register.merge call.confined.batch call.confined.answer.found =
      s.register.merge call.batch call.answer.found := by
    rw [h.register]
    exact t.register.merge_confined call.batch call.answer
  unfold Progress.handOver
  rw [hfailure]
  dsimp only
  split
  · exact ⟨rfl, hmerge.symm, h.world, h.asked⟩
  · exact ⟨rfl, h.register, h.world, h.asked⟩
  · exact ⟨rfl, h.register, h.world, h.asked⟩

/-- Runs at the same point are so after they have drained their windows. -/
theorem Same.drain {s t : Progress σ} (h : Same s t) (p : Provider σ) (o : Options)
    (rounds : Nat) (w : Window) :
    (t.drain p.confined o rounds w.confined).2 = (s.drain p o rounds w).2 ∧
      Same (s.drain p o rounds w).1 (t.drain p.confined o rounds w.confined).1 := by
  induction rounds generalizing w s t with
  | zero => exact ⟨rfl, h⟩
  | succ rounds ih =>
    obtain ⟨inFlight, waiting⟩ := w
    cases inFlight with
    | nil => exact ⟨rfl, h⟩
    | cons call inFlight =>
      obtain ⟨hfailure, hsame⟩ := h.handOver p.name o.mode call
      have hname : p.confined.name = p.name := rfl
      unfold Progress.drain
      simp only [Window.confined, List.map_cons, hname]
      generalize s.handOver p.name o.mode call = result at hfailure hsame
      generalize t.handOver p.name o.mode call.confined = other at hfailure hsame
      obtain ⟨s', failure?⟩ := result
      obtain ⟨t', failure?'⟩ := other
      obtain rfl : failure?' = failure? := hfailure
      cases failure?' with
      | some failure => exact ⟨rfl, hsame⟩
      | none =>
        obtain ⟨hwindow, hstarted⟩ := hsame.start p o.timeout ⟨inFlight, waiting⟩
        simp only [Window.confined] at hwindow hstarted
        dsimp only
        rw [hwindow]
        exact ih hstarted _

/-- Runs at the same point are so after they have asked about some batches. -/
theorem Same.ask {s t : Progress σ} (h : Same s t) (p : Provider σ) (o : Options)
    (batches : List (List ComponentId)) :
    (t.ask p.confined o batches).2 = (s.ask p o batches).2 ∧
      Same (s.ask p o batches).1 (t.ask p.confined o batches).1 := by
  obtain ⟨hwindow, hsame⟩ := h.fill p o.timeout (min o.concurrency batches.length) ⟨[], batches⟩
  simp only [Window.confined, List.map_nil] at hwindow hsame
  unfold Progress.ask
  dsimp only
  rw [hwindow]
  exact hsame.drain p o batches.length _

end Progress

namespace Resolution

variable {o : Options} (size_pos : 0 < o.batchSize) (ids : List ComponentId)

/-- Runs at the same point are so after the turn of a provider. -/
theorem same_turn (p : Provider σ) {s t : Progress σ} (h : s.Same t) :
    (turn o size_pos ids p.confined t).2 = (turn o size_pos ids p s).2 ∧
      (turn o size_pos ids p s).1.Same (turn o size_pos ids p.confined t).1 := by
  unfold turn
  rw [← h.register]
  split
  · exact ⟨rfl, rfl, h.world, rfl⟩
  · refine Progress.Same.ask ?_ p o _
    exact ⟨rfl, h.world, rfl⟩

/-- Runs at the same point end with the same result. -/
theorem same_visit (providers : List (Provider σ)) {s t : Progress σ} (h : s.Same t) :
    (visit o size_pos ids (providers.map Provider.confined) t).outcome =
        (visit o size_pos ids providers s).outcome ∧
      (visit o size_pos ids (providers.map Provider.confined) t).register =
        (visit o size_pos ids providers s).register ∧
      (visit o size_pos ids (providers.map Provider.confined) t).asked =
        (visit o size_pos ids providers s).asked ∧
      (visit o size_pos ids (providers.map Provider.confined) t).world =
        (visit o size_pos ids providers s).world := by
  induction providers generalizing s t with
  | nil => exact ⟨rfl, h.register.symm, rfl, h.world.symm⟩
  | cons p providers ih =>
    obtain ⟨hfailure, hsame⟩ := same_turn size_pos ids p h
    rw [List.map_cons, visit_cons, visit_cons]
    generalize turn o size_pos ids p s = result at hfailure hsame
    generalize turn o size_pos ids p.confined t = other at hfailure hsame
    obtain ⟨s', failure?⟩ := result
    obtain ⟨t', failure?'⟩ := other
    obtain rfl : failure?' = failure? := hfailure
    have hnow : s'.asked = t'.asked := hsame.asked
    cases failure?' with
    | some failure =>
      refine ⟨rfl, hsame.register.symm, ?_, hsame.world.symm⟩
      dsimp only
      rw [hnow, List.map_map]
      rfl
    | none =>
      obtain ⟨houtcome, hregister, hasked, hworld⟩ := ih hsame
      exact ⟨houtcome, hregister, by simp only [hasked, hnow], hworld⟩

end Resolution

/-- What providers say about components outside their batches has no effect but warnings. -/
theorem resolve_confined {providers : List (Provider σ)} {o : Options} {world : σ}
    {r : Resolution σ} (resolved : resolve providers o ids world = .ok r) :
    ∃ r', resolve (providers.map Provider.confined) o ids world = .ok r' ∧
      r'.outcome = r.outcome ∧ r'.register = r.register ∧ r'.asked = r.asked ∧
      r'.world = r.world := by
  cases hrefusal : o.refusal? with
  | some refusal =>
    rw [resolve_of_refusal hrefusal] at resolved
    cases resolved
  | none =>
    rw [resolve_eq_visit hrefusal] at resolved
    obtain rfl := Except.ok.inj resolved
    exact ⟨_, resolve_eq_visit hrefusal _ ids world,
      Resolution.same_visit _ _ providers ⟨rfl, rfl, rfl⟩⟩

end Clearance
