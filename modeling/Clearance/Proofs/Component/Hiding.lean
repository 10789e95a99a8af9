import Clearance.Component.Notation
import Clearance.Proofs.Component.Answerable
import Clearance.Proofs.Resolution.Queries
import Mathlib.Data.Finset.Dedup
import Mathlib.Data.Finset.Insert
import Mathlib.Data.List.Perm.Basic

/-!
# Lines that hide one another

Of the entries of a dependency list with one canonical text the first is kept. This loses nothing
where their ids are all valid or all not, and then the order of the lines does not matter.

It can lose a component. Text that no notation recognises is its own canonical text, and this can
be the canonical text of a valid id from another notation, because the five-part notation does not
admit every part that the others do: `maven/mavencentral/g$/a/1` is such a text, and the line
`g$:a:1` denotes the component. Then the first line *hides* the second (`ComponentId.Hides`). No
other two entries with one canonical text differ in validity, so the order of the lines of a list
decides nothing about what it holds exactly if no line hides another.
-/

set_option autoImplicit false

namespace Clearance

universe w

/-! ## Reading without regard to blanks around a text -/

/-- White space around a text makes no difference to a notation. -/
theorem Notation.read_trim (n : Notation) (s : String) : n.read (Text.trim s) = n.read s := by
  have htrim : Text.trimChars (Text.trim s).toList = Text.trimChars s.toList := by
    rw [Text.trim, String.toList_ofList, Text.trimChars_trimChars]
  cases n with
  | fivePart => exact FivePart.read_trim s
  | packageUrl => simp only [read, PackageUrl.read, htrim]
  | maven => simp only [read, Maven.read, htrim]
  | npm => simp only [read, Npm.read, htrim]

namespace ComponentId

/-- White space around a text makes no difference to the id that is read. -/
theorem read_trim (s : String) : read (Text.trim s) = read s := by
  have htwice : Text.trim (Text.trim s) = Text.trim s := by
    rw [Text.trim, Text.trim, String.toList_ofList, Text.trimChars_trimChars]
  simp only [read, Notation.read_trim, ofUnrecognised, htwice]

/-- Text is read by the first notation that recognises it, or not recognised at all. -/
theorem read_cases (s : String) :
    (∃ c, read s = .located c) ∨
      read s = .unrecognised (Text.trim s) ∧ ∀ n : Notation, n.read s = none := by
  cases hread : Notation.all.findSome? (·.read s) with
  | some c =>
    left
    refine ⟨c, ?_⟩
    unfold read
    rw [hread]
  | none =>
    right
    refine ⟨?_, fun n => ?_⟩
    · unfold read
      rw [hread]
      rfl
    · exact List.findSome?_eq_none_iff.1 hread n (by cases n <;> decide)

/-- A text in no notation is an unrecognised id. -/
theorem read_eq_of_forall_none {s : String} (h : ∀ n : Notation, n.read s = none) :
    read s = .unrecognised (Text.trim s) := by
  unfold read
  rw [List.findSome?_eq_none_iff.2 fun n _ => h n]
  rfl

/-! ## Hidden ids -/

/-- The entry `s` is not recognised, and its text is the canonical text of the valid id that the
entry `t` denotes. Where `s` is the earlier one, nobody is asked about the component. -/
def Hides (s t : String) : Prop :=
  (read t).isValid = true ∧ read s = .unrecognised (read t).canonical

instance (s t : String) : Decidable (Hides s t) := inferInstanceAs (Decidable (_ ∧ _))

/-- Only an entry that hides a valid one shares its canonical text without being valid. -/
theorem hides_of_canonical_eq {s t : String} (same : (read s).canonical = (read t).canonical)
    (valid : (read t).isValid = true) (invalid : (read s).isValid = false) : Hides s t := by
  refine ⟨valid, ?_⟩
  obtain ⟨c, hlocated, hwell, -⟩ := exists_located_of_isValid_read valid
  rw [hlocated] at same ⊢
  rcases read_cases s with ⟨d, hd⟩ | ⟨htext, -⟩
  · -- Coordinates with the canonical text of well-formed ones are well formed.
    rw [hd] at same invalid
    have hwell' := ((Coordinates.canonical_eq_iff hwell).1 same.symm).1
    rw [isValid, coordinates?, Option.any_some, hwell'] at invalid
    cases invalid
  · rw [htext] at same ⊢
    exact congrArg unrecognised same

/-- Entries with one canonical text are both valid or both not, unless one hides the other. -/
theorem isValid_eq_iff {s t : String} (same : (read s).canonical = (read t).canonical) :
    (read s).isValid = (read t).isValid ↔ ¬ Hides s t ∧ ¬ Hides t s := by
  constructor
  · intro heq
    refine ⟨?_, ?_⟩
    · rintro ⟨hvalid, htext⟩
      rw [htext, hvalid] at heq
      cases heq
    · rintro ⟨hvalid, htext⟩
      rw [htext, hvalid] at heq
      cases heq
  · rintro ⟨hst, hts⟩
    cases hs : (read s).isValid with
    | false =>
      cases ht : (read t).isValid with
      | false => rfl
      | true => exact absurd (hides_of_canonical_eq same ht hs) hst
    | true =>
      cases ht : (read t).isValid with
      | false => exact absurd (hides_of_canonical_eq same.symm hs ht) hts
      | true => rfl

/-- A valid id is hidden by its own canonical text, if no notation recognises that. -/
theorem hides_iff {s t : String} :
    Hides s t ↔ (read t).isValid = true ∧ Text.trim s = (read t).canonical ∧
      ∀ n : Notation, n.read (read t).canonical = none := by
  constructor
  · rintro ⟨hvalid, htext⟩
    rcases read_cases s with ⟨d, hd⟩ | ⟨htrim, hnone⟩
    · rw [hd] at htext
      cases htext
    · obtain hsame := unrecognised.inj (htrim.symm.trans htext)
      refine ⟨hvalid, hsame, fun n => ?_⟩
      rw [← hsame, n.read_trim, hnone n]
  · rintro ⟨hvalid, hsame, hnone⟩
    refine ⟨hvalid, ?_⟩
    rw [← hsame] at hnone ⊢
    exact read_eq_of_forall_none fun n => by rw [← n.read_trim, hnone n]

/-- The parts of a hidden id go beyond the characters of the five-part notation. -/
theorem admits_eq_false_of_hides {s t : String} (h : Hides s t) :
    ∃ c, read t = .located c ∧ FivePart.admits c = false := by
  obtain ⟨hvalid, -, hnone⟩ := hides_iff.1 h
  obtain ⟨c, hlocated, hwell, -⟩ := exists_located_of_isValid_read hvalid
  refine ⟨c, hlocated, ?_⟩
  have hfive : FivePart.read c.canonical = none := by
    have hread := hnone .fivePart
    rwa [hlocated] at hread
  rw [FivePart.read_canonical hwell] at hfive
  by_contra hadmits
  rw [if_pos (by simpa using hadmits)] at hfive
  cases hfive

/-- Neither of the two entries is blank. -/
theorem trim_ne_empty_of_hides {s t : String} (h : Hides s t) :
    Text.trim s ≠ "" ∧ Text.trim t ≠ "" := by
  obtain ⟨hvalid, hsame, -⟩ := hides_iff.1 h
  constructor
  · obtain ⟨c, hlocated, -⟩ := exists_located_of_isValid_read hvalid
    intro hblank
    rw [hblank, hlocated, ← String.toList_inj, canonical, Coordinates.canonical] at hsame
    simp at hsame
  · intro hblank
    have hnever : (read "").isValid = false := by decide +kernel
    rw [← read_trim, hblank, hnever] at hvalid
    cases hvalid

/-! ## What lists of ids hold -/

/-- The canonical texts of ids, each with the validity of its id. -/
def holdings (ids : List ComponentId) : List (String × Bool) :=
  ids.map fun id => (id.canonical, id.isValid)

/-- The first occurrences hold a text with the validity of the first id that has it. -/
theorem mem_holdings_firstOccurrences {ids : List ComponentId} {key : String} {valid : Bool} :
    (key, valid) ∈ holdings (firstOccurrences ids) ↔
      (ids.find? (·.canonical == key)).map (·.isValid) = some valid := by
  rw [← find?_firstOccurrences, holdings, List.mem_map]
  constructor
  · rintro ⟨id, hid, heq⟩
    obtain ⟨rfl, rfl⟩ := Prod.mk.inj heq
    rw [find?_of_mem (pairwise_firstOccurrences ids) hid, Option.map_some]
  · intro h
    obtain ⟨id, hid, rfl⟩ := Option.map_eq_some_iff.1 h
    obtain rfl : id.canonical = key := by simpa using List.find?_some hid
    exact ⟨id, List.mem_of_find?_eq_some hid, rfl⟩

/-- Where ids with one canonical text agree on validity, nothing is lost with the later ones. -/
theorem mem_holdings_of_agree {ids : List ComponentId}
    (agree : ∀ a ∈ ids, ∀ b ∈ ids, a.canonical = b.canonical → a.isValid = b.isValid)
    (pair : String × Bool) :
    pair ∈ holdings (firstOccurrences ids) ↔ pair ∈ holdings ids := by
  obtain ⟨key, valid⟩ := pair
  rw [mem_holdings_firstOccurrences, holdings, List.mem_map]
  constructor
  · intro h
    obtain ⟨id, hid, rfl⟩ := Option.map_eq_some_iff.1 h
    obtain rfl : id.canonical = key := by simpa using List.find?_some hid
    exact ⟨id, List.mem_of_find?_eq_some hid, rfl⟩
  · rintro ⟨id, hid, heq⟩
    obtain ⟨rfl, rfl⟩ := Prod.mk.inj heq
    obtain ⟨first, hfirst⟩ : ∃ first, ids.find? (·.canonical == id.canonical) = some first := by
      rw [← Option.isSome_iff_exists, List.find?_isSome]
      exact ⟨id, hid, by simp⟩
    have hsame : first.canonical = id.canonical := by simpa using List.find?_some hfirst
    rw [hfirst, Option.map_some, agree first (List.mem_of_find?_eq_some hfirst) id hid hsame]

end ComponentId

/-! ## Lines of a text -/

namespace Listing

open ComponentId (Hides holdings)

/-- The ids of the lines that are not blank. -/
def denoted (lines : List String) : List ComponentId :=
  ((lines.map Text.trim).filter (!·.isEmpty)).map ComponentId.read

/-- The ids of some lines are those of the lines that are not blank. -/
theorem mem_denoted_iff {lines : List String} {id : ComponentId} :
    id ∈ denoted lines ↔ ∃ line ∈ lines, Text.trim line ≠ "" ∧ ComponentId.read line = id := by
  simp [denoted, ComponentId.read_trim, and_assoc]

/-- What a dependency list holds, if it is readable: the canonical texts of its ids with their
validity. -/
def holdings? (bytes : List UInt8) : Option (Finset (String × Bool)) :=
  (read? bytes).map fun ids => (holdings ids).toFinset

/-- What a list holds is told by its lines. -/
theorem holdings?_of_lines {bytes : List UInt8} {lines : List String}
    (h : lines? bytes = some lines) :
    holdings? bytes = some (holdings (ofLines lines)).toFinset := by
  rw [holdings?, read?, h, Option.map_some, Option.map_some]

/-- The lines of a text whose lines are permuted are permuted in the same way. -/
theorem lines?_perm {bytes others : List UInt8} {lines : List String}
    (permuted : (others.splitOn lineFeed).Perm (bytes.splitOn lineFeed))
    (h : lines? bytes = some lines) :
    ∃ lines', lines? others = some lines' ∧ lines'.Perm lines := by
  obtain ⟨lines', hlines, hperm⟩ := List.perm_comp_forall₂ permuted (mapM_eq_some_iff.1 h)
  exact ⟨lines', mapM_eq_some_iff.2 hlines, hperm⟩

/-- Any line of a text can be made the first one. -/
theorem exists_lines?_cons {bytes : List UInt8} {lines : List String}
    (h : lines? bytes = some lines) {s : String} (hs : s ∈ lines) :
    ∃ others rest, (others.splitOn lineFeed).Perm (bytes.splitOn lineFeed) ∧
      lines? others = some (s :: rest) := by
  have hfront : Relation.Comp (List.Forall₂ fun part line => Text.ofUtf8? part = some line)
      List.Perm (bytes.splitOn lineFeed) (s :: lines.erase s) :=
    ⟨lines, mapM_eq_some_iff.1 h, List.perm_cons_erase hs⟩
  rw [List.forall₂_comp_perm_eq_perm_comp_forall₂] at hfront
  obtain ⟨parts, hperm, hparts⟩ := hfront
  have hcut : ([lineFeed].intercalate parts).splitOn lineFeed = parts := by
    refine List.splitOn_intercalate lineFeed (fun part hpart => ?_) ?_
    · exact not_mem_of_mem_splitOn (hperm.mem_iff.2 hpart)
    · rintro rfl
      cases hparts
  refine ⟨[lineFeed].intercalate parts, lines.erase s, ?_, ?_⟩
  · rw [hcut]
    exact hperm.symm
  · rw [lines?, hcut]
    exact mapM_eq_some_iff.2 hparts

/-- Where no line hides another, the order of the lines does not matter. -/
theorem mem_holdings_ofLines_perm {lines lines' : List String} (permuted : lines'.Perm lines)
    (seen : ∀ s ∈ lines, ∀ t ∈ lines, ¬ Hides s t) (pair : String × Bool) :
    pair ∈ holdings (ofLines lines') ↔ pair ∈ holdings (ofLines lines) := by
  have hperm : (denoted lines').Perm (denoted lines) :=
    ((permuted.map _).filter _).map _
  have hagree : ∀ a ∈ denoted lines, ∀ b ∈ denoted lines, a.canonical = b.canonical →
      a.isValid = b.isValid := by
    intro a ha b hb same
    obtain ⟨s, hs, -, rfl⟩ := mem_denoted_iff.1 ha
    obtain ⟨t, ht, -, rfl⟩ := mem_denoted_iff.1 hb
    exact (ComponentId.isValid_eq_iff same).2 ⟨seen s hs t ht, seen t ht s hs⟩
  have hagree' : ∀ a ∈ denoted lines', ∀ b ∈ denoted lines', a.canonical = b.canonical →
      a.isValid = b.isValid :=
    fun a ha b hb => hagree a (hperm.mem_iff.1 ha) b (hperm.mem_iff.1 hb)
  calc pair ∈ holdings (ofLines lines')
      ↔ pair ∈ holdings (denoted lines') := ComponentId.mem_holdings_of_agree hagree' pair
    _ ↔ pair ∈ holdings (denoted lines) := (hperm.map _).mem_iff
    _ ↔ pair ∈ holdings (ofLines lines) := (ComponentId.mem_holdings_of_agree hagree pair).symm

/-- The first line is never lost, unless it is blank. -/
theorem mem_holdings_ofLines_cons {s : String} {rest : List String} (filled : Text.trim s ≠ "") :
    ((ComponentId.read s).canonical, (ComponentId.read s).isValid) ∈
      holdings (ofLines (s :: rest)) := by
  have hdenoted : denoted (s :: rest) = ComponentId.read s :: denoted rest := by
    simp [denoted, filled, ComponentId.read_trim]
  change _ ∈ holdings (ComponentId.firstOccurrences (denoted (s :: rest)))
  rw [hdenoted, ComponentId.mem_holdings_firstOccurrences, List.find?_cons_of_pos (by simp)]
  rfl

/-- No canonical text is held twice. -/
theorem isValid_eq_of_mem_holdings {lines : List String} {key : String} {a b : Bool}
    (ha : (key, a) ∈ holdings (ofLines lines)) (hb : (key, b) ∈ holdings (ofLines lines)) :
    a = b := by
  rw [ofLines, ComponentId.mem_holdings_firstOccurrences] at ha hb
  rw [ha] at hb
  exact Option.some.inj hb

/-- Where no line hides another, permuted lines hold the same. -/
theorem holdings?_perm {bytes others : List UInt8}
    (permuted : (others.splitOn lineFeed).Perm (bytes.splitOn lineFeed))
    (seen : ∀ lines, lines? bytes = some lines → ∀ s ∈ lines, ∀ t ∈ lines, ¬ Hides s t) :
    holdings? others = holdings? bytes := by
  cases hlines : lines? bytes with
  | none =>
    cases hothers : lines? others with
    | none => rw [holdings?, holdings?, read?, read?, hothers, hlines]
    | some lines' =>
      obtain ⟨lines, hlines', -⟩ := lines?_perm permuted.symm hothers
      rw [hlines] at hlines'
      cases hlines'
  | some lines =>
    obtain ⟨lines', hothers, hperm⟩ := lines?_perm permuted hlines
    rw [holdings?_of_lines hlines, holdings?_of_lines hothers]
    refine congrArg some (Finset.ext fun pair => ?_)
    rw [List.mem_toFinset, List.mem_toFinset]
    exact mem_holdings_ofLines_perm hperm (seen lines hlines) pair

/-- What permutations do not change holds every line that is not blank, because any line can be the
first one. -/
theorem mem_holdings_of_forall_perm {bytes : List UInt8} {lines : List String}
    (h : lines? bytes = some lines)
    (same : ∀ others, (others.splitOn lineFeed).Perm (bytes.splitOn lineFeed) →
      holdings? others = holdings? bytes)
    {s : String} (hs : s ∈ lines) (filled : Text.trim s ≠ "") :
    ((ComponentId.read s).canonical, (ComponentId.read s).isValid) ∈ holdings (ofLines lines) := by
  obtain ⟨others, rest, hperm, hothers⟩ := exists_lines?_cons h hs
  have heq := same others hperm
  rw [holdings?_of_lines h, holdings?_of_lines hothers, Option.some.injEq] at heq
  rw [← List.mem_toFinset, ← heq, List.mem_toFinset]
  exact mem_holdings_ofLines_cons filled

/-- If the order of the lines decides nothing, no line hides another one. -/
theorem not_hides_of_forall_perm {bytes : List UInt8} {lines : List String}
    (h : lines? bytes = some lines)
    (same : ∀ others, (others.splitOn lineFeed).Perm (bytes.splitOn lineFeed) →
      holdings? others = holdings? bytes)
    {s t : String} (hs : s ∈ lines) (ht : t ∈ lines) : ¬ Hides s t := by
  intro hidden
  have hfilled := ComponentId.trim_ne_empty_of_hides hidden
  have hfirst := mem_holdings_of_forall_perm h same hs hfilled.1
  have hsecond := mem_holdings_of_forall_perm h same ht hfilled.2
  obtain ⟨hvalid, htext⟩ := hidden
  rw [htext] at hfirst
  have hagree := isValid_eq_of_mem_holdings hfirst hsecond
  rw [hvalid] at hagree
  cases hagree

end Listing

/-! ## Questions to providers -/

namespace ComponentId

variable {σ : Type w}

/-- A complete resolution has asked its first provider about every valid entry that no other entry
hides. -/
theorem mem_asked_of_not_hidden {texts : List String} {t : String} (ht : t ∈ texts)
    (valid : (read t).isValid = true) (seen : ∀ s ∈ texts, ¬ Hides s t) {o : Options}
    (accepted : o.refusal? = none) {p : Provider σ} {providers : List (Provider σ)} {world : σ}
    {r : Resolution σ} (resolved : resolve (p :: providers) o (texts.map read) world = .ok r)
    (complete : r.outcome = .complete) :
    ∃ batches, r.asked[0]? = some batches ∧
      ∃ id ∈ batches.flatten, id.canonical = (read t).canonical := by
  obtain ⟨r', hresolve, hlength, -, hasked⟩ :=
    resolve_asks_due accepted (p :: providers) (texts.map read) world
  rw [resolved] at hresolve
  obtain rfl := Except.ok.inj hresolve
  obtain ⟨batches, hbatches⟩ : ∃ batches, r.asked[0]? = some batches := by
    refine ⟨_, List.getElem?_eq_getElem ?_⟩
    rw [hlength]
    exact Nat.zero_lt_succ _
  obtain ⟨before, hbefore, -, hall, -⟩ := hasked 0 batches hbatches
  -- Before the first turn the register holds no observations.
  rw [List.take_zero, resolve_eq_visit accepted] at hbefore
  obtain rfl := Except.ok.inj hbefore
  refine ⟨batches, hbatches, ?_⟩
  rw [hall complete]
  obtain ⟨first, hfirst⟩ : ∃ first,
      (texts.map read).find? (·.canonical == (read t).canonical) = some first := by
    rw [← Option.isSome_iff_exists, List.find?_isSome]
    exact ⟨read t, List.mem_map_of_mem ht, by simp⟩
  have hsame : first.canonical = (read t).canonical := by simpa using List.find?_some hfirst
  have hvalid : first.isValid = true := by
    obtain ⟨s, hs, rfl⟩ := List.mem_map.1 (List.mem_of_find?_eq_some hfirst)
    by_contra hinvalid
    exact seen s hs (hides_of_canonical_eq hsame valid (by simpa using hinvalid))
  rw [← find?_firstOccurrences] at hfirst
  refine ⟨first, List.mem_filter.2 ⟨List.mem_of_find?_eq_some hfirst, ?_⟩, hsame⟩
  have hfresh : (Register.ofIds (firstOccurrences (texts.map read))).approves first = false := by
    rw [Register.approves, Register.find?_ofIds (pairwise_firstOccurrences _)]
    cases (firstOccurrences (texts.map read)).find? (·.canonical == first.canonical) <;> rfl
  simp only [Resolution.visit, Resolution.finish, hvalid, hfresh]
  rfl

end ComponentId

/-! ## The order of lines -/

namespace Listing

open ComponentId (Hides)

/-- Entries with one canonical text differ in validity exactly if one hides the other, and what is
hidden goes beyond the characters of the five-part notation. So the order of the lines of a text
decides nothing about what it holds exactly if no line hides another one, and a provider is asked
about every valid entry that is not hidden. -/
theorem holdings?_perm_iff (σ : Type w) :
    (∀ s t, (ComponentId.read s).canonical = (ComponentId.read t).canonical →
      ((ComponentId.read s).isValid = (ComponentId.read t).isValid ↔
        ¬ Hides s t ∧ ¬ Hides t s)) ∧
    (∀ s t, Hides s t → ∃ c, ComponentId.read t = .located c ∧ FivePart.admits c = false) ∧
    (∀ bytes,
      (∀ others, (others.splitOn lineFeed).Perm (bytes.splitOn lineFeed) →
          holdings? others = holdings? bytes) ↔
        ∀ lines, lines? bytes = some lines → ∀ s ∈ lines, ∀ t ∈ lines, ¬ Hides s t) ∧
    ∀ texts : List String, ∀ t ∈ texts, (ComponentId.read t).isValid = true →
      (∀ s ∈ texts, ¬ Hides s t) →
      ∀ (o : Options) (p : Provider σ) (providers : List (Provider σ)) (world : σ)
        (r : Resolution σ), o.refusal? = none →
        resolve (p :: providers) o (texts.map ComponentId.read) world = .ok r →
        r.outcome = .complete →
          ∃ batches, r.asked[0]? = some batches ∧
            ∃ id ∈ batches.flatten, id.canonical = (ComponentId.read t).canonical := by
  refine ⟨fun s t same => ComponentId.isValid_eq_iff same,
    fun s t => ComponentId.admits_eq_false_of_hides, fun bytes => ⟨?_, ?_⟩, ?_⟩
  · intro same lines hlines s hs t ht
    exact not_hides_of_forall_perm hlines same hs ht
  · intro seen others hperm
    exact holdings?_perm hperm seen
  · intro texts t ht valid seen o p providers world r accepted resolved complete
    exact ComponentId.mem_asked_of_not_hidden ht valid seen accepted resolved complete

/-- The canonical text of an artifact with a dollar in its group is no id itself. Whichever of the
two lines comes first decides if the component is asked about. -/
theorem holdings?_of_dollar :
    let artifact := "g$:a:1"
    let text := "maven/mavencentral/g$/a/1"
    let bytes := (artifact ++ "\n" ++ text).toUTF8.toList
    let others := (text ++ "\n" ++ artifact).toUTF8.toList
    (others.splitOn lineFeed).Perm (bytes.splitOn lineFeed) ∧
      holdings? bytes = some {(text, true)} ∧ holdings? others = some {(text, false)} := by
  decide +kernel

/-- A package in two notations and text that is no id, in either order, and an artifact that is
hidden. -/
theorem holdings?_perm_iff_of_three_lines :
    let texts := ["a@1", "npm/npmjs/-/a/1", "???"]
    let bytes := "a@1\nnpm/npmjs/-/a/1\n???".toUTF8.toList
    let others := "???\nnpm/npmjs/-/a/1\na@1".toUTF8.toList
    let silent : Provider Unit := { name := "silent", query := fun _ world => ({}, world) }
    (others.splitOn lineFeed).Perm (bytes.splitOn lineFeed) ∧ lines? bytes = some texts ∧
      (∀ s ∈ texts, ∀ t ∈ texts, ¬ Hides s t) ∧ holdings? others = holdings? bytes ∧
      holdings? bytes = some {("npm/npmjs/-/a/1", true), ("???", false)} ∧
      (∃ r, resolve [silent] {} (texts.map ComponentId.read) () = .ok r ∧ r.outcome = .complete ∧
        ∃ batches, r.asked[0]? = some batches ∧
          ∃ id ∈ batches.flatten, id.canonical = (ComponentId.read "npm/npmjs/-/a/1").canonical) ∧
      Hides "maven/mavencentral/g$/a/1" "g$:a:1" ∧
      ∃ c, ComponentId.read "g$:a:1" = .located c ∧ FivePart.admits c = false := by
  intro texts bytes others silent
  obtain ⟨-, hadmits, hperm, hasked⟩ := holdings?_perm_iff Unit
  have hpermuted : (others.splitOn lineFeed).Perm (bytes.splitOn lineFeed) := by decide +kernel
  have hlines : lines? bytes = some texts := by decide +kernel
  have hseen : ∀ s ∈ texts, ∀ t ∈ texts, ¬ Hides s t := by decide +kernel
  have hhides : Hides "maven/mavencentral/g$/a/1" "g$:a:1" := by decide +kernel
  refine ⟨hpermuted, hlines, hseen, ?_, by decide +kernel, ?_, hhides, hadmits _ _ hhides⟩
  · refine (hperm bytes).2 (fun lines h => ?_) others hpermuted
    rw [hlines] at h
    obtain rfl := Option.some.inj h
    exact hseen
  · have hrun : (resolve [silent] {} (texts.map ComponentId.read) ()).toOption.map (·.outcome) =
        some .complete := by
      decide +kernel
    cases hresolve : resolve [silent] {} (texts.map ComponentId.read) () with
    | error refusal =>
      rw [hresolve] at hrun
      cases hrun
    | ok r =>
      rw [hresolve] at hrun
      have hcomplete : r.outcome = .complete := Option.some.inj hrun
      refine ⟨r, rfl, hcomplete, ?_⟩
      refine hasked texts _ (by simp [texts]) (by decide +kernel) (fun s hs => ?_) {} silent [] () r
        rfl hresolve hcomplete
      exact hseen s hs _ (by simp [texts])

end Listing

end Clearance
