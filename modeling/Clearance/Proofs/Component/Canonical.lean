import Clearance.Component.Notation
import Clearance.Proofs.Component.Separation
import Clearance.Proofs.Text.Pieces

/-!
# Canonical texts

Components are told apart by their canonical texts, and one text can belong to ids of different
kinds: text that no notation recognises has itself as its canonical text, which may be the one of
coordinates from another notation.

What providers say is not affected by this. Their ids are read in the five-part notation, in which
canonical texts are written, so that such an id is valid and so is every entry of a dependency list
with the same canonical text (`isValid_read_of_canonical_eq`).
-/

set_option autoImplicit false

namespace Clearance

/-! ## Characters -/

namespace Text

/-- The code points of blanks. -/
def blankPoints : List Nat :=
  [0x9, 0xA, 0xB, 0xC, 0xD, 0x20, 0x85, 0xA0, 0x1680, 0x2000, 0x2001, 0x2002, 0x2003, 0x2004,
    0x2005, 0x2006, 0x2007, 0x2008, 0x2009, 0x200A, 0x2028, 0x2029, 0x202F, 0x205F, 0x3000]

/-- The table holds the code points of all blanks. -/
theorem mem_blankPoints {c : Char} (h : isBlank c = true) : c.toNat ∈ blankPoints := by
  simp only [isBlank, Bool.or_eq_true, Bool.and_eq_true, decide_eq_true_eq, beq_iff_eq] at h
  simp only [blankPoints, List.mem_cons, List.not_mem_nil, or_false]
  omega

/-- All of these points are blanks. -/
example : blankPoints.length = 25 ∧ blankPoints.all (fun n => isBlank (Char.ofNat n)) = true := by
  decide +kernel

/-- Word characters are no blanks. -/
theorem isBlank_of_isWord {c : Char} (h : isWord c = true) : isBlank c = false := by
  have hpoints : ∀ n ∈ blankPoints, isWord (Char.ofNat n) = false := by decide +kernel
  cases hblank : isBlank c with
  | false => rfl
  | true =>
    have hnot := hpoints c.toNat (mem_blankPoints hblank)
    rw [Char.ofNat_toNat, h] at hnot
    cases hnot

end Text

/-! ## The five-part notation -/

namespace FivePart

/-- No character of a name is blank. -/
theorem isBlank_of_isNameChar {c : Char} (h : isNameChar c = true) : Text.isBlank c = false := by
  simp only [isNameChar, isScopeChar, isSourceChar, isKindChar, Bool.or_eq_true, beq_iff_eq] at h
  rcases h with (((hword | rfl) | rfl) | rfl) | rfl
  · exact Text.isBlank_of_isWord hword
  all_goals decide

/-- Where no allowed character is blank, no escaped one is. -/
theorem isBlank_of_allOrEscaped {allowed : Char → Bool}
    (free : ∀ c, allowed c = true → Text.isBlank c = false) {cs : List Char}
    (h : allOrEscaped allowed cs = true) : ∀ c ∈ cs, Text.isBlank c = false := by
  fun_induction allOrEscaped allowed cs with
  | case1 => simp
  | case2 c cs hescape ih =>
    have hc : Text.isBlank c = false := by
      rcases hescape with rfl | rfl <;> decide
    intro d hd
    simp only [List.mem_cons] at hd
    rcases hd with rfl | rfl | rfl | hrest
    · decide
    · decide
    · exact hc
    · exact ih h d hrest
  | case3 c cs _ ih =>
    simp only [Bool.and_eq_true] at h
    intro d hd
    simp only [List.mem_cons] at hd
    rcases hd with rfl | rfl | rfl | hrest
    · decide
    · decide
    · exact free d h.1.2
    · exact ih h.2 d hrest
  | case4 c cs _ ih =>
    simp only [Bool.and_eq_true] at h
    intro d hd
    rcases List.mem_cons.1 hd with rfl | hrest
    · exact free d h.1
    · exact ih h.2 d hrest

/-- Text in the notation is five parts with slashes between them, none of them empty or with a
blank in it. -/
theorem exists_of_read {s : String} {c : Coordinates} (h : read s = some c) :
    ∃ kind source scope name version : List Char,
      (Text.trimChars s.toList).splitOn '/' = [kind, source, scope, name, version] ∧
        (∀ part ∈ [kind, source, scope, name, version],
          part ≠ [] ∧ ∀ ch ∈ part, Text.isBlank ch = false) ∧
        c = .of (String.ofList kind) (String.ofList source) (some (String.ofList scope))
          (String.ofList name) (String.ofList version) := by
  unfold read at h
  split at h
  · next kind source scope name version hparts =>
    split at h
    · next hgood =>
      simp only [Bool.and_eq_true, Bool.not_eq_true', List.isEmpty_eq_false_iff,
        List.all_eq_true] at hgood
      obtain ⟨⟨⟨⟨⟨hkind, hkinds⟩, hsource, hsources⟩, hscope, hscopes⟩, hname, hnames⟩, hversion,
        hversions⟩ := hgood
      refine ⟨kind, source, scope, name, version, hparts, ?_, (Option.some.inj h).symm⟩
      have hfree : ∀ ch, isScopeChar ch = true → Text.isBlank ch = false := by
        intro ch hch
        exact isBlank_of_isNameChar (by simp [isNameChar, hch])
      simp only [List.forall_mem_cons, List.not_mem_nil, false_imp_iff, implies_true, and_true]
      refine ⟨⟨hkind, fun ch hch => ?_⟩, ⟨hsource, fun ch hch => ?_⟩, ⟨hscope, ?_⟩, ⟨hname, ?_⟩,
        hversion, fun ch hch => by simpa using hversions ch hch⟩
      · exact hfree ch (by simp [isScopeChar, isSourceChar, hkinds ch hch])
      · exact hfree ch (by simp [isScopeChar, hsources ch hch])
      · exact isBlank_of_allOrEscaped hfree hscopes
      · exact isBlank_of_allOrEscaped (fun ch => isBlank_of_isNameChar) hnames
    · cases h
  · cases h

/-- White space around a five-part text makes no difference. -/
theorem read_trim (s : String) : read (Text.trim s) = read s := by
  unfold read
  rw [Text.trim, String.toList_ofList, Text.trimChars_trimChars]

/-- What a text in the notation denotes has the parts between its slashes. -/
theorem parts_of_read {s : String} {c : Coordinates} (h : read s = some c) :
    c.parts = (Text.trimChars s.toList).splitOn '/' := by
  obtain ⟨kind, source, scope, name, version, hparts, -, rfl⟩ := exists_of_read h
  rw [hparts, Coordinates.parts, Coordinates.scopeText_of]
  simp only [Coordinates.of, Option.getD_some, String.toList_ofList]

/-- The canonical text of what a text denotes is the text itself. -/
theorem canonical_of_read {s : String} {c : Coordinates} (h : read s = some c) :
    c.canonical = Text.trim s := by
  rw [← String.toList_inj, Coordinates.toList_canonical, parts_of_read h, Text.trim,
    String.toList_ofList]
  exact List.intercalate_splitOn '/'

/-- What a text in the notation denotes is well formed. -/
theorem isWellFormed_of_read {s : String} {c : Coordinates} (h : read s = some c) :
    c.isWellFormed = true := by
  obtain ⟨kind, source, scope, name, version, hcut, hgood, -⟩ := exists_of_read h
  rw [Coordinates.isWellFormed_iff_parts, parts_of_read h]
  intro part hpart
  have hfree := not_mem_of_mem_splitOn hpart
  rw [hcut] at hpart
  obtain ⟨hnonempty, hblank⟩ := hgood part hpart
  simp only [Coordinates.isSegment, String.toList_ofList, Bool.and_eq_true, Bool.not_eq_true',
    List.isEmpty_eq_false_iff, List.all_eq_true]
  refine ⟨hnonempty, fun ch hch => ⟨?_, by simpa using hblank ch hch⟩⟩
  simp only [bne_iff_ne, ne_eq]
  rintro rfl
  exact hfree hch

end FivePart

/-! ## Reading canonical texts -/

namespace Coordinates

/-- The canonical text of well-formed coordinates holds no blank. -/
theorem isBlank_of_mem_canonical {c : Coordinates} (h : c.isWellFormed = true) :
    ∀ ch ∈ c.canonical.toList, Text.isBlank ch = false := by
  intro ch hch
  rw [toList_canonical] at hch
  rcases mem_intercalate hch with hsep | ⟨part, hpart, hin⟩
  · obtain rfl := List.mem_singleton.1 hsep
    decide
  · have hsegment := isWellFormed_iff_parts.1 h part hpart
    simp only [isSegment, String.toList_ofList, Bool.and_eq_true, List.all_eq_true] at hsegment
    simpa using (hsegment.2 ch hin).2

/-- The scope as it is written stands for the normalised one. -/
theorem of_scopeText (c : Coordinates) :
    Coordinates.of c.kind c.source (some c.scopeText) c.name c.version = c.normalised := by
  unfold normalised scopeText of
  cases c.scope <;> rfl

/-- Coordinates that are made from their parts are normalised already. -/
@[simp] theorem normalised_of (kind source : String) (scope : Option String)
    (name version : String) :
    (Coordinates.of kind source scope name version).normalised =
      .of kind source scope name version := by
  simp [normalised, of, Option.filter_filter]

end Coordinates

namespace FivePart

/-- The parts of coordinates hold only characters of the notation. -/
def admits (c : Coordinates) : Bool :=
  c.kind.toList.all isKindChar && c.source.toList.all isSourceChar &&
    allOrEscaped isScopeChar c.scopeText.toList && allOrEscaped isNameChar c.name.toList

/-- The canonical text of well-formed coordinates is read where the notation admits their parts. -/
theorem read_canonical {c : Coordinates} (h : c.isWellFormed = true) :
    read c.canonical = if admits c then some c.normalised else none := by
  have htrim : Text.trimChars c.canonical.toList = c.canonical.toList :=
    Text.trimChars_of_free (Coordinates.isBlank_of_mem_canonical h)
  have hsegments := Coordinates.isWellFormed_iff_parts.1 h
  simp only [Coordinates.parts, List.forall_mem_cons, List.not_mem_nil, false_imp_iff,
    implies_true, and_true, Coordinates.isSegment, String.toList_ofList, Bool.and_eq_true,
    List.all_eq_true] at hsegments
  obtain ⟨⟨hkind, -⟩, ⟨hsource, -⟩, ⟨hscope, -⟩, ⟨hname, -⟩, hversion, hversions⟩ := hsegments
  have hfree : (c.version.toList.all fun ch => !Text.isBlank ch) = true := by
    rw [List.all_eq_true]
    exact fun ch hch => (hversions ch hch).2
  unfold read
  rw [htrim, Coordinates.splitOn_canonical h, Coordinates.parts]
  simp only [hkind, hsource, hscope, hname, hversion, hfree, Bool.true_and, Bool.and_true,
    String.ofList_toList, Coordinates.of_scopeText, admits, Bool.and_assoc]

end FivePart

/-! ## Ids with a canonical text -/

namespace ComponentId

/-- The first notation that recognises a text decides. -/
theorem read_of_first {s : String} {c : Coordinates} {n : Notation} {later : List Notation}
    (earlier : List Notation) (order : Notation.all = earlier ++ n :: later)
    (refused : ∀ m ∈ earlier, m.read s = none) (h : n.read s = some c) :
    read s = .located c := by
  have hfirst : Notation.all.findSome? (·.read s) = some c := by
    rw [order, List.findSome?_append, List.findSome?_eq_none_iff.2 refused, Option.none_or,
      List.findSome?_cons, h]
  unfold read
  rw [hfirst]

/-- An entry of a dependency list with the canonical text of an id that a provider can write is
valid. -/
theorem isValid_read_of_canonical_eq {text s : String} {id : ComponentId}
    (h : ofCanonical? text = some id) (same : (read s).canonical = id.canonical) :
    (read s).isValid = true := by
  obtain ⟨d, hd, rfl⟩ := Option.map_eq_some_iff.1 h
  cases hread : Notation.all.findSome? (·.read s) with
  | some c =>
    have hlocated : read s = .located c := by
      unfold read
      rw [hread]
    rw [hlocated] at same ⊢
    have hwell := FivePart.isWellFormed_of_read hd
    exact ((Coordinates.canonical_eq_iff hwell).1 same.symm).1
  | none =>
    -- The five-part notation would have recognised the text.
    have hunrecognised : read s = .unrecognised (Text.trim s) := by
      unfold read
      rw [hread]
      rfl
    have htrim : Text.trim s = Text.trim text := by
      rw [hunrecognised] at same
      exact same.trans (FivePart.canonical_of_read hd)
    have hsame : FivePart.read s = some d := by
      rw [← FivePart.read_trim s, htrim, FivePart.read_trim, hd]
    have hnone : FivePart.read s = none := List.findSome?_eq_none_iff.1 hread .fivePart (by decide)
    rw [hnone] at hsame
    cases hsame

end ComponentId

end Clearance
