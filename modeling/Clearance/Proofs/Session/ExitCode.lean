import Clearance.Proofs.Component.Canonical
import Clearance.Proofs.Resolution.Queries
import Clearance.Proofs.Resolution.Truncation
import Clearance.Session

/-!
# The exit code of a session

A session whose settings load, whose dependency list is readable and whose reports can be written
exits with 0 exactly if its resolution is complete and each line of the list that is not blank is a
valid id with an approved entry.

Of lines with one canonical text the first one decides which id is resolved, and a line that is not
valid can come after a valid one. It still keeps the session from exiting with 0: an entry is
approved by an observation, the ids of observations are read in the five-part notation
(`exists_ofCanonical?_of_found`), and then every line with that canonical text is valid.
-/

set_option autoImplicit false

namespace Clearance

universe u

variable {σ : Type u}

/-! ## Observations of services -/

/-- What the foundation observes has an id that was read as a canonical text. -/
theorem Foundation.exists_ofCanonical?_of_mem {reply : Json.Value} {obs : Observation}
    (h : obs ∈ observations reply) : ∃ text, ComponentId.ofCanonical? text = some obs.id := by
  obtain ⟨record, -, hrecord⟩ := List.mem_filterMap.1 h
  simp only [observation?, Option.bind_eq_bind, Option.bind_eq_some_iff, Option.pure_def,
    Option.some.injEq] at hrecord
  obtain ⟨value, -, text, -, id, hid, rfl⟩ := hrecord
  exact ⟨text, hid⟩

/-- What the foundation answers has an id that was read as a canonical text. -/
theorem Foundation.exists_ofCanonical?_of_answer {count : Nat} {reply : Reply} {obs : Observation}
    (h : obs ∈ (answer count reply).found) :
    ∃ text, ComponentId.ofCanonical? text = some obs.id := by
  unfold answer at h
  cases reply with
  | failed => simp at h
  | answered status body =>
    dsimp only at h
    split at h
    · simp at h
    · split at h
      · simp at h
      · exact exists_ofCanonical?_of_mem h

/-- What ClearlyDefined answers has an id that was read as a canonical text. -/
theorem ClearlyDefined.exists_ofCanonical?_of_answer {service : ClearlyDefined} {count : Nat}
    {reply : Reply} {obs : Observation} (h : obs ∈ (service.answer count reply).found) :
    ∃ text, ComponentId.ofCanonical? text = some obs.id := by
  unfold answer at h
  cases reply with
  | failed => simp at h
  | answered status body =>
    dsimp only at h
    split at h
    · simp at h
    · split at h
      · simp at h
      · obtain ⟨field, -, hfield⟩ := List.mem_filterMap.1 h
        obtain ⟨id, hid, rfl⟩ := Option.map_eq_some_iff.1 hfield
        exact ⟨field.1, hid⟩
      · simp at h

/-- Every observation of a service is about an id that it has written in the five-part notation. -/
theorem Settings.exists_ofCanonical?_of_found (s : Settings) (transport : Transport σ)
    (service : Service) (batch : List ComponentId) (world : σ) {obs : Observation}
    (h : obs ∈ ((s.provider transport service).query batch world).1.found) :
    ∃ text, ComponentId.ofCanonical? text = some obs.id := by
  cases service with
  | foundation =>
    simp only [provider, Foundation.provider] at h
    split at h
    · simp at h
    · split at h
      · simp at h
      · exact Foundation.exists_ofCanonical?_of_answer h
  | clearlyDefined =>
    simp only [provider, ClearlyDefined.provider] at h
    split at h
    · simp at h
    · exact ClearlyDefined.exists_ofCanonical?_of_answer h

/-! ## Approved entries -/

/-- The calls of a round are calls to one of the providers. -/
theorem mem_transcript {o : Options} {size_pos : 0 < o.batchSize} {ids : List ComponentId}
    {providers : List (Provider σ)} {earlier : List Round} {world : σ} {round : Round}
    (h : round ∈ transcript o size_pos ids providers earlier world) :
    ∃ p ∈ providers, ∃ batches start, round = ⟨p.name, p.calls batches start⟩ := by
  induction providers generalizing earlier world with
  | nil => simp [transcript] at h
  | cons p providers ih =>
    rcases List.mem_cons.1 h with rfl | hrest
    · exact ⟨p, List.mem_cons_self, _, _, rfl⟩
    · obtain ⟨q, hq, hround⟩ := ih hrest
      exact ⟨q, List.mem_cons_of_mem _ hq, hround⟩

/-- Each call of a provider is about some batch, in some world. -/
theorem Provider.mem_calls {p : Provider σ} {batches : List (List ComponentId)} {world : σ}
    {c : Call} (h : c ∈ p.calls batches world) : ∃ batch start, c = p.call batch start := by
  induction batches generalizing world with
  | nil => simp [calls] at h
  | cons batch batches ih =>
    rcases List.mem_cons.1 h with rfl | hrest
    · exact ⟨batch, world, rfl⟩
    · exact ih hrest

/-- The entries of a complete resolution are those of the requested ids, with what the calls have
delivered about them. -/
theorem find?_of_complete {o : Options} (accepted : o.refusal? = none)
    {providers : List (Provider σ)} {ids : List ComponentId} {world : σ} {r : Resolution σ}
    (resolved : resolve providers o ids world = .ok r) (complete : r.outcome = .complete)
    (key : String) :
    r.register.find? key = (ids.find? (·.canonical == key)).map fun id =>
      ⟨id, (allCalls (roundsOf o accepted providers ids world)).flatMap
        (·.2.about o.timeout key)⟩ := by
  obtain ⟨r', hresolve, hsettle, -⟩ := resolve_eq_settle accepted providers ids world
  rw [resolved] at hresolve
  obtain rfl := Except.ok.inj hresolve
  rw [complete] at hsettle
  rw [(settle_eq_complete_iff.1 hsettle).2]
  exact find?_hearAll_ofIds o.timeout ids _ key

/-- What services approve they have written in the five-part notation. -/
theorem exists_ofCanonical?_of_approved {s : Settings} {transport : Transport σ}
    {order : List Service} {o : Options} (accepted : o.refusal? = none) {ids : List ComponentId}
    {world : σ} {r : Resolution σ}
    (resolved : resolve (order.map (s.provider transport)) o ids world = .ok r)
    (complete : r.outcome = .complete) {key : String} {e : Entry}
    (entry : r.register.find? key = some e) (approved : e.status = .approved) :
    ∃ text id, ComponentId.ofCanonical? text = some id ∧ id.canonical = key := by
  rw [find?_of_complete accepted resolved complete, Option.map_eq_some_iff] at entry
  obtain ⟨id, -, rfl⟩ := entry
  rw [Entry.status_eq_approved_iff, List.any_eq_true] at approved
  obtain ⟨obs, hobs, -⟩ := approved
  obtain ⟨⟨name, c⟩, hcall, habout⟩ := List.mem_flatMap.1 hobs
  obtain ⟨round, hround, hlabelled⟩ := List.mem_flatMap.1 hcall
  obtain ⟨c', hc, hname⟩ := List.mem_map.1 hlabelled
  obtain rfl : c' = c := (Prod.mk.inj hname).2
  obtain ⟨p, hp, batches, start, rfl⟩ := mem_transcript hround
  obtain ⟨service, -, rfl⟩ := List.mem_map.1 hp
  obtain ⟨batch, start', rfl⟩ := Provider.mem_calls hc
  obtain ⟨hdelivered, hkey⟩ := List.mem_filter.1 habout
  rw [Bool.and_eq_true, beq_iff_eq] at hkey
  have hfound : obs ∈ ((s.provider transport service).query batch start').1.found := by
    unfold Call.delivered at hdelivered
    split at hdelivered
    · exact hdelivered
    · simp at hdelivered
  obtain ⟨text, htext⟩ := s.exists_ofCanonical?_of_found transport service batch start' hfound
  exact ⟨text, obs.id, htext, hkey.2⟩

namespace Register

/-- The entries are what stands under the keys. -/
theorem mem_entries_iff {r : Register} {e : Entry} :
    e ∈ r.entries ↔ ∃ key, r.find? key = some e := by
  simp only [entries, List.mem_map, Prod.exists, mem_rows_iff, exists_eq_right]

/-- Nothing needs review where every entry is approved. -/
theorem isEmpty_needsReview_iff {r : Register} :
    r.needsReview.isEmpty = true ↔ ∀ key e, r.find? key = some e → e.status = .approved := by
  rw [needsReview, List.isEmpty_iff, List.map_eq_nil_iff, List.filter_eq_nil_iff]
  constructor
  · intro h key e he
    simpa using h e (mem_entries_iff.2 ⟨key, he⟩)
  · intro h e he
    obtain ⟨key, hkey⟩ := mem_entries_iff.1 he
    simpa using h key e hkey

end Register

/-! ## Exit codes -/

namespace Session

/-- The bytes of the dependency list, if it is there. -/
def listBytes? (place : Surroundings) (path : String) : Option (List UInt8) :=
  if path = Invocation.standardInput then some place.standardInput
  else
    match place.files path with
    | some (.file bytes) => some bytes
    | _ => none

/-- A list whose lines can be read is read as their components. -/
theorem readList_eq {place : Surroundings} {path : String} {lines : List String}
    (h : (listBytes? place path).bind Listing.lines? = some lines) :
    readList place path = .ok (Listing.ofLines lines) := by
  have hread (bytes : List UInt8) (hlines : Listing.lines? bytes = some lines) :
      Listing.read? bytes = some (Listing.ofLines lines) := by
    rw [Listing.read?, hlines, Option.map_some]
  unfold listBytes? at h
  unfold readList
  split at h
  · next hstandard =>
    rw [if_pos hstandard]
    simp only [hread _ h]
  · next hfile =>
    rw [if_neg hfile]
    split at h
    · next bytes hbytes =>
      simp only [hbytes, hread _ h]
    · cases h

/-- The id that a line names has an entry, and entries have no other keys. -/
theorem exists_find?_ofLines_iff {lines : List String} {key : String} :
    ((Listing.ofLines lines).find? (·.canonical == key)).isSome = true ↔
      ∃ line ∈ lines, Text.trim line ≠ "" ∧
        (ComponentId.read (Text.trim line)).canonical = key := by
  rw [Listing.ofLines, ComponentId.find?_firstOccurrences, List.find?_isSome]
  simp [and_assoc]

/-- A session whose summary can be written ends with the code of its resolution. -/
theorem exitCode_conclude {place : Surroundings} {i : Invocation} (messages : String)
    (r : Resolution σ) (writable : ∀ path, i.summary = some path → place.isWritable path = true) :
    (conclude place i messages r).exitCode = exitCodeOf r := by
  unfold conclude
  split
  · next path hpath =>
    rw [if_pos (writable path hpath)]
  · rfl

/-- The code is 0 exactly if the resolution is complete and nothing needs review. -/
theorem exitCodeOf_eq_zero_iff {r : Resolution σ} :
    exitCodeOf r = 0 ↔ r.outcome = .complete ∧ r.register.needsReview.isEmpty = true := by
  unfold exitCodeOf
  cases r.outcome with
  | complete =>
    cases r.register.needsReview.isEmpty <;> simp
  | unavailable name cause => simp

/-- The code is 2 exactly if a provider is unavailable. -/
theorem exitCodeOf_eq_two_iff {r : Resolution σ} :
    exitCodeOf r = 2 ↔ ∃ name cause, r.outcome = .unavailable name cause := by
  unfold exitCodeOf
  cases r.outcome with
  | complete =>
    cases r.register.needsReview.isEmpty <;> simp
  | unavailable name cause => simp

/-- No code is greater than 2. -/
theorem exitCodeOf_le (r : Resolution σ) : exitCodeOf r ≤ 2 := by
  unfold exitCodeOf
  cases r.outcome with
  | complete =>
    cases r.register.needsReview.isEmpty <;> simp
  | unavailable name cause => simp

/-- Settings and the lines of a list lead to this resolution. -/
def Resolves (s : Settings) (transport : Transport σ) (lines : List String) (world : σ)
    (r : Resolution σ) : Prop :=
  ∃ providers, s.providers transport = .ok providers ∧
    resolve providers s.options (Listing.ofLines lines) world = .ok r

/-- Settings and lines lead to one resolution. -/
theorem Resolves.eq {s : Settings} {transport : Transport σ} {lines : List String} {world : σ}
    {r r' : Resolution σ} (h : Resolves s transport lines world r)
    (h' : Resolves s transport lines world r') : r = r' := by
  obtain ⟨providers, hproviders, hresolve⟩ := h
  obtain ⟨providers', hproviders', hresolve'⟩ := h'
  rw [hproviders] at hproviders'
  obtain rfl := Except.ok.inj hproviders'
  rw [hresolve] at hresolve'
  exact Except.ok.inj hresolve'

/-- The resolution of a session decides its exit code, and without one the code is 1. -/
theorem exitCode_run {place : Surroundings} (transport : Transport σ) {i : Invocation}
    {configured : Settings} {lines : List String}
    (loaded : Settings.load place.files place.project place.home i.config = .ok configured)
    (readable : (listBytes? place i.inputPath).bind Listing.lines? = some lines)
    (writable : ∀ path, i.summary = some path → place.isWritable path = true) (world : σ) :
    (∃ r, Resolves (i.override configured) transport lines world r ∧
        (run place transport i world).1.exitCode = exitCodeOf r) ∨
      (∀ r, ¬ Resolves (i.override configured) transport lines world r) ∧
        (run place transport i world).1.exitCode = 1 := by
  unfold run Resolves
  simp only [loaded, readList_eq readable]
  cases hproviders : (i.override configured).providers transport with
  | error e =>
    refine Or.inr ⟨?_, rfl⟩
    rintro r ⟨providers, hnone, -⟩
    cases hnone
  | ok providers =>
    cases hresolve : resolve providers (i.override configured).options
      (Listing.ofLines lines) world with
    | error e =>
      refine Or.inr ⟨?_, by simp only [hresolve, failed]⟩
      rintro r ⟨providers', hproviders', hresolve'⟩
      obtain rfl := Except.ok.inj hproviders'
      rw [hresolve] at hresolve'
      cases hresolve'
    | ok r =>
      refine Or.inl ⟨r, ⟨providers, rfl, hresolve⟩, ?_⟩
      simp only [hresolve]
      exact exitCode_conclude _ r writable

/-- A complete resolution by services leaves nothing to review exactly if each line of the list is
a valid id with an approved entry. -/
theorem isEmpty_needsReview_iff_lines {s : Settings} {transport : Transport σ}
    {lines : List String} {world : σ} {r : Resolution σ}
    (resolves : Resolves s transport lines world r) (complete : r.outcome = .complete) :
    r.register.needsReview.isEmpty = true ↔
      ∀ line ∈ lines, Text.trim line ≠ "" →
        (ComponentId.read (Text.trim line)).isValid = true ∧
          ∃ e, r.register.find? (ComponentId.read (Text.trim line)).canonical = some e ∧
            e.status = .approved := by
  obtain ⟨providers, hservices, hresolve⟩ := resolves
  have accepted : s.options.refusal? = none := by
    cases hrefusal : s.options.refusal? with
    | none => rfl
    | some refusal =>
      rw [resolve_of_refusal hrefusal] at hresolve
      cases hresolve
  have hfind := find?_of_complete accepted hresolve complete
  rw [Register.isEmpty_needsReview_iff]
  constructor
  · intro hall line hline hblank
    have hsome := exists_find?_ofLines_iff.2 ⟨line, hline, hblank, rfl⟩
    obtain ⟨id, hid⟩ := Option.isSome_iff_exists.1 hsome
    have hentry := hfind (ComponentId.read (Text.trim line)).canonical
    rw [hid, Option.map_some] at hentry
    have happroved := hall _ _ hentry
    refine ⟨?_, _, hentry, happroved⟩
    obtain rfl : providers = s.order.map (s.provider transport) := by
      unfold Settings.providers at hservices
      split at hservices
      · cases hservices
      · exact (Except.ok.inj hservices).symm
    -- Nobody approves an id that is not valid, since services observe canonical texts only.
    obtain ⟨text, other, htext, hcanonical⟩ :=
      exists_ofCanonical?_of_approved accepted hresolve complete hentry happroved
    exact ComponentId.isValid_read_of_canonical_eq htext hcanonical.symm
  · intro hall key e he
    rw [hfind key, Option.map_eq_some_iff] at he
    obtain ⟨id, hid, rfl⟩ := he
    obtain ⟨line, hline, hblank, rfl⟩ :=
      exists_find?_ofLines_iff.1 (Option.isSome_iff_exists.2 ⟨id, hid⟩)
    obtain ⟨-, e, hentry, happroved⟩ := hall line hline hblank
    rw [hfind, hid, Option.map_some] at hentry
    rw [Option.some.inj hentry]
    exact happroved

/-- The exit code is 0 exactly if the resolution is complete and every line of the list that is not
blank is a valid id with an approved entry, it is 2 exactly if a failure has ended the resolution,
and it is 1 otherwise. So with a line that is not valid it is never 0. It does not depend on the
form of the report, on a summary or on how much is said. -/
theorem exitCode_eq_zero_iff_approved (place : Surroundings) (transport : Transport σ)
    (i : Invocation) {configured : Settings} {lines : List String}
    (loaded : Settings.load place.files place.project place.home i.config = .ok configured)
    (readable : (listBytes? place i.inputPath).bind Listing.lines? = some lines)
    (writable : ∀ path, i.summary = some path → place.isWritable path = true) (world : σ) :
    ((run place transport i world).1.exitCode = 0 ↔
      ∃ r, Resolves (i.override configured) transport lines world r ∧ r.outcome = .complete ∧
        ∀ line ∈ lines, Text.trim line ≠ "" →
          (ComponentId.read (Text.trim line)).isValid = true ∧
            ∃ e, r.register.find? (ComponentId.read (Text.trim line)).canonical = some e ∧
              e.status = .approved) ∧
    ((run place transport i world).1.exitCode = 2 ↔
      ∃ r name cause, Resolves (i.override configured) transport lines world r ∧
        r.outcome = .unavailable name cause) ∧
    ((run place transport i world).1.exitCode ≠ 0 →
      (run place transport i world).1.exitCode ≠ 2 →
        (run place transport i world).1.exitCode = 1) ∧
    (∀ line ∈ lines, Text.trim line ≠ "" →
      (ComponentId.read (Text.trim line)).isValid = false →
        (run place transport i world).1.exitCode ≠ 0) ∧
    ∀ (report : Option ReportFormat) (summary : Option String) (verbosity : Nat) (quiet : Bool),
      (∀ path, summary = some path → place.isWritable path = true) →
        (run place transport { i with report, summary, verbosity, quiet } world).1.exitCode =
          (run place transport i world).1.exitCode := by
  -- Either settings and lines lead to a resolution, which decides the code, or there is none.
  have hends := exitCode_run transport loaded readable writable world
  have hzero : (run place transport i world).1.exitCode = 0 ↔
      ∃ r, Resolves (i.override configured) transport lines world r ∧ r.outcome = .complete ∧
        ∀ line ∈ lines, Text.trim line ≠ "" →
          (ComponentId.read (Text.trim line)).isValid = true ∧
            ∃ e, r.register.find? (ComponentId.read (Text.trim line)).canonical = some e ∧
              e.status = .approved := by
    rcases hends with ⟨r, hr, hcode⟩ | ⟨hnone, hcode⟩
    · rw [hcode, exitCodeOf_eq_zero_iff]
      constructor
      · rintro ⟨hcomplete, hempty⟩
        exact ⟨r, hr, hcomplete, (isEmpty_needsReview_iff_lines hr hcomplete).1 hempty⟩
      · rintro ⟨r', hr', hcomplete, hall⟩
        obtain rfl := hr'.eq hr
        exact ⟨hcomplete, (isEmpty_needsReview_iff_lines hr hcomplete).2 hall⟩
    · rw [hcode]
      refine iff_of_false Nat.one_ne_zero ?_
      rintro ⟨r, hr, -⟩
      exact hnone r hr
  refine ⟨hzero, ?_, ?_, ?_, ?_⟩
  · rcases hends with ⟨r, hr, hcode⟩ | ⟨hnone, hcode⟩
    · rw [hcode, exitCodeOf_eq_two_iff]
      constructor
      · rintro ⟨name, cause, houtcome⟩
        exact ⟨r, name, cause, hr, houtcome⟩
      · rintro ⟨r', name, cause, hr', houtcome⟩
        obtain rfl := hr'.eq hr
        exact ⟨name, cause, houtcome⟩
    · rw [hcode]
      refine iff_of_false (by decide) ?_
      rintro ⟨r, _, _, hr, -⟩
      exact hnone r hr
  · intro hnotzero hnottwo
    rcases hends with ⟨r, -, hcode⟩ | ⟨-, hcode⟩
    · have hle := exitCodeOf_le r
      omega
    · exact hcode
  · intro line hline hblank hinvalid hexit
    obtain ⟨r, -, -, hall⟩ := hzero.1 hexit
    rw [(hall line hline hblank).1] at hinvalid
    cases hinvalid
  · intro report summary verbosity quiet hsummary
    have hothers := exitCode_run (i := { i with report, summary, verbosity, quiet }) transport
      loaded readable hsummary world
    rcases hends with ⟨r, hr, hcode⟩ | ⟨hnone, hcode⟩
    · rcases hothers with ⟨r', hr', hcode'⟩ | ⟨hnone', -⟩
      · rw [hcode', hcode, hr'.eq hr]
      · exact absurd hr (hnone' r)
    · rcases hothers with ⟨r', hr', -⟩ | ⟨-, hcode'⟩
      · exact absurd hr' (hnone r')
      · rw [hcode', hcode]

/-- The second line has the canonical text of the first one, which is valid and is resolved for
both. -/
theorem exitCode_eq_zero_iff_approved_of_shadowed_line :
    let place : Surroundings :=
      { files := fun _ => none, project := "/project", home := none
        standardInput := "a~b@1\nnpm/npmjs/-/a~b/1\n".toUTF8.toList
        isWritable := fun _ => true, colors := false }
    (ComponentId.read "a~b@1").isValid = true ∧
      (ComponentId.read "npm/npmjs/-/a~b/1").canonical = (ComponentId.read "a~b@1").canonical ∧
      (run place (Transport.unreachable : Transport Unit) {} ()).1.exitCode ≠ 0 := by
  intro place
  have hloaded : Settings.load place.files place.project place.home none = .ok {} := rfl
  have hreadable : (listBytes? place Invocation.standardInput).bind Listing.lines? =
      some ["a~b@1", "npm/npmjs/-/a~b/1", ""] := by decide +kernel
  have hinvalid : (ComponentId.read (Text.trim "npm/npmjs/-/a~b/1")).isValid = false := by
    decide +kernel
  obtain ⟨-, -, -, hnever, -⟩ := exitCode_eq_zero_iff_approved place
    (Transport.unreachable : Transport Unit) {} hloaded hreadable (by simp) ()
  refine ⟨by decide +kernel, by decide +kernel, ?_⟩
  exact hnever "npm/npmjs/-/a~b/1" (by simp) (by decide +kernel) hinvalid

end Session

end Clearance
