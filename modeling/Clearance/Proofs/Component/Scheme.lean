import Clearance.Proofs.Component.Words

/-!
# Texts with the scheme of package URLs

Text that starts with `pkg:` is a package URL, if the reader of package URLs accepts it: the
five-part notation, which is tried before, does not know the colon.

Where the reader refuses the text, the later notations are tried like on any other text, and two of
them can recognise it by their own rules (`OtherReading`): `pkg:a:1` is a Maven dependency in the
group `pkg`, and `pkg:npm@1.0` a package of npm with the name `pkg:npm`. A slash before the next
colon rules both out, so text of the form `pkg:type/…` is a package URL or no valid id.
-/

set_option autoImplicit false

namespace Clearance

/-! ## Letters in any case -/

/-- A character is plain if it is so in lower case. -/
theorem isPlainChar_of_toLower {c : Char} (h : isPlainChar c.toLower = true) :
    isPlainChar c = true := by
  cases hupper : c.isUpper with
  | true => simp [isPlainChar, Char.isAlphanum, Char.isAlpha, hupper]
  | false =>
    have hsame : c.toLower = c := by
      rw [Char.toLower]
      split
      · next hrange =>
        rw [Char.isUpper, decide_eq_false_iff_not] at hupper
        exact absurd hrange hupper
      · rfl
    rwa [hsame] at h

namespace PackageUrl

/-- The characters that spell the scheme, in some mixture of cases. -/
def Spells (head : List Char) : Prop := head.map Char.toLower = scheme.toList

variable {head : List Char}

/-- The scheme is made of plain characters, whatever its case. -/
theorem Spells.isPlainChar (h : Spells head) : ∀ c ∈ head, isPlainChar c = true := by
  intro c hc
  have hplain : scheme.toList.all Clearance.isPlainChar = true := by decide
  apply isPlainChar_of_toLower
  apply List.all_eq_true.1 hplain
  rw [← h]
  exact List.mem_map_of_mem hc

/-- No separator stands in the scheme. -/
theorem Spells.not_mem (h : Spells head) {c : Char} (hc : Clearance.isPlainChar c = false) :
    c ∉ head :=
  fun hmem => ne_of_isPlainChar (h.isPlainChar c hmem) hc rfl

/-- The scheme is not empty. -/
theorem Spells.ne_nil (h : Spells head) : head ≠ [] := by
  rintro rfl
  simp [Spells, scheme] at h

/-- The scheme does not begin with the prefix of bundles. -/
theorem Spells.isPrefixOf_eq_false (h : Spells head) :
    Maven.bundlePrefix.toList.isPrefixOf head = false := by
  by_contra hprefix
  rw [Bool.not_eq_false, List.isPrefixOf_iff_prefix] at hprefix
  obtain ⟨tail, rfl⟩ := hprefix
  rw [Spells, List.map_append] at h
  simp [Maven.bundlePrefix, scheme] at h

/-- The scheme could be a part of an id. -/
theorem Spells.isSegment (h : Spells head) : Coordinates.isSegment (String.ofList head) = true := by
  refine FivePart.isSegment_of_forall (by simpa using h.ne_nil) fun c hc => ?_
  rw [String.toList_ofList] at hc
  simp [FivePart.isNameChar, isScopeChar_of_isPlainChar (h.isPlainChar c hc)]

end PackageUrl

/-! ## Well-formed coordinates of the later notations -/

namespace Coordinates

/-- Coordinates are well formed if each of their five parts is. -/
theorem isWellFormed_of (kind source : String) (scope : Option String) (name version : String) :
    (Coordinates.of kind source scope name version).isWellFormed =
      (isSegment (scope.getD absentScope) && isSegment kind && isSegment source &&
        isSegment name && isSegment version) := by
  rw [isWellFormed, ← isSegment_scopeText, scopeText_of]
  rfl

end Coordinates

namespace Npm

/-- Well-formed coordinates come from two segments with the only at sign between them. -/
theorem readNamed_iff {cs : List Char} {c : Coordinates} :
    readNamed none cs = some c ∧ c.isWellFormed = true ↔
      ∃ name version, cs = name ++ '@' :: version ∧ '@' ∉ name ∧ '@' ∉ version ∧
        Coordinates.isSegment (String.ofList name) = true ∧
        Coordinates.isSegment (String.ofList version) = true ∧
        c = .of "npm" "npmjs" none (String.ofList name) (String.ofList version) := by
  have hwell (name version : String) :
      (Coordinates.of "npm" "npmjs" none name version).isWellFormed =
        (Coordinates.isSegment name && Coordinates.isSegment version) := by
    have hfixed : (Coordinates.isSegment "-" && Coordinates.isSegment "npm" &&
        Coordinates.isSegment "npmjs") = true := by decide
    rw [Coordinates.isWellFormed_of, Option.getD_none, Coordinates.absentScope, hfixed,
      Bool.true_and]
  constructor
  · rintro ⟨hread, hgood⟩
    simp only [readNamed, Option.bind_eq_bind, Option.bind_eq_some_iff] at hread
    obtain ⟨⟨name, version⟩, hcut, hread⟩ := hread
    obtain ⟨hcs, hname⟩ := Text.cutFirst_eq_some hcut
    split at hread
    · next hchars =>
      obtain rfl := (Option.some.inj hread).symm
      rw [hwell, Bool.and_eq_true] at hgood
      refine ⟨name, version, hcs, hname, ?_, hgood.1, hgood.2, rfl⟩
      simp only [Bool.and_eq_true, List.all_eq_true] at hchars
      intro hat
      exact absurd (hchars.2 '@' hat) (by decide)
    · cases hread
  · rintro ⟨name, version, rfl, hname, hversion, hsegment, hsegment', rfl⟩
    refine ⟨?_, by rw [hwell, hsegment, hsegment', Bool.and_self]⟩
    simp only [Coordinates.isSegment, String.toList_ofList, Bool.and_eq_true, Bool.not_eq_true',
      List.all_eq_true, bne_iff_ne] at hsegment hsegment'
    have hnames : name.all isNameChar = true := by
      rw [List.all_eq_true]
      intro c hc
      have hat : c ≠ '@' := fun h => hname (h ▸ hc)
      simpa [isNameChar, hat] using (hsegment.2 c hc).symm
    have hversions : version.all isVersionChar = true := by
      rw [List.all_eq_true]
      intro c hc
      have hat : c ≠ '@' := fun h => hversion (h ▸ hc)
      simpa [isVersionChar, hat] using (hsegment'.2 c hc).2
    simp only [readNamed, Text.cutFirst_append hname, Option.bind_eq_bind, Option.bind_some,
      hsegment.1, hsegment'.1, hnames, hversions, Bool.not_false, Bool.and_self, if_true]

end Npm

/-! ## Refused package URLs -/

/-- The first piece goes up to the first separator. -/
theorem head?_splitOn (sep : Char) (cs : List Char) :
    (cs.splitOn sep).head? = some (Text.upTo sep cs) := by
  by_cases h : sep ∈ cs
  · obtain ⟨before, after, rfl, hfree⟩ := List.eq_append_cons_of_mem h
    rw [splitOn_append_cons, List.splitOn_eq_singleton hfree, Text.upTo_append hfree]
    simp [Text.upTo]
  · have hupTo := Text.upTo_append h []
    rw [List.append_nil] at hupTo
    rw [List.splitOn_eq_singleton h, hupTo]
    simp [Text.upTo]

section refused

variable {s : String} {head rest : List Char}

/-- No text with the scheme of a URL consists of five parts. -/
theorem FivePart.read_eq_none_of_scheme (text : Text.trimChars s.toList = head ++ ':' :: rest)
    (spelled : PackageUrl.Spells head) : read s = none :=
  read_eq_none text (spelled.not_mem (by decide)) (by decide) (by decide)

/-- The scheme is the group of a Maven dependency, and no bundle prefix. -/
theorem Maven.read_of_scheme (text : Text.trimChars s.toList = head ++ ':' :: rest)
    (spelled : PackageUrl.Spells head) :
    read s = (versionIndex? (head :: rest.splitOn ':')).map fun index =>
      .of "maven" "mavencentral" (some (String.ofList head))
        (String.ofList ((head :: rest.splitOn ':').getD 1 []))
        (String.ofList ((head :: rest.splitOn ':').getD index [])) := by
  have hfields : (Text.trimChars s.toList).splitOn ':' = head :: rest.splitOn ':' := by
    have hfree : ':' ∉ head := spelled.not_mem (by decide)
    rw [text, splitOn_append_cons, List.splitOn_eq_singleton hfree, List.singleton_append]
  unfold read
  rw [hfields]
  dsimp only
  split
  · next h => rw [h, Option.map_none]
  · next index h =>
    rw [h, Option.map_some, List.getD_cons_zero, String.toList_ofList,
      spelled.isPrefixOf_eq_false]
    rfl

/-- A version stands behind the group and the name. -/
theorem Maven.exists_fields {fields : List (List Char)} {index : Nat}
    (h : versionIndex? fields = some index) :
    ∃ name version, fields[1]? = some name ∧ fields[index]? = some version := by
  have hat := List.find?_some h
  simp only [versionAt, Bool.and_eq_true, Option.any_eq_true] at hat
  obtain ⟨⟨-, ⟨⟨version, hversion, -⟩, -⟩, ⟨name, hname, -⟩⟩, -⟩ := hat
  exact ⟨name, version, hname, hversion⟩

/-- The scheme does not start like a scope. -/
theorem Npm.read_of_scheme (text : Text.trimChars s.toList = head ++ ':' :: rest)
    (spelled : PackageUrl.Spells head) : read s = readNamed none (head ++ ':' :: rest) := by
  have hat : '@' ∉ head := spelled.not_mem (by decide)
  obtain ⟨c, cs, rfl⟩ := List.exists_cons_of_ne_nil spelled.ne_nil
  unfold read
  rw [text]
  split
  · next h =>
    rw [(List.cons.inj h).1] at hat
    exact absurd List.mem_cons_self hat
  · rfl

/-- What the later notations make of text that starts with the letters `head` and a colon. -/
inductive OtherReading (head rest : List Char) : Coordinates → Prop where
  /-- A Maven dependency in a group with the name of the scheme. -/
  | artifact {index : Nat} {name version : List Char}
      (versioned : Maven.versionIndex? (head :: rest.splitOn ':') = some index)
      (named : (head :: rest.splitOn ':')[1]? = some name)
      (placed : (head :: rest.splitOn ':')[index]? = some version)
      (name_segment : Coordinates.isSegment (String.ofList name) = true)
      (version_segment : Coordinates.isSegment (String.ofList version) = true) :
      OtherReading head rest (.of "maven" "mavencentral" (some (String.ofList head))
        (String.ofList name) (String.ofList version))
  /-- A package of npm whose name starts with the scheme. -/
  | package {name version : List Char}
      (unversioned : Maven.versionIndex? (head :: rest.splitOn ':') = none)
      (text : head ++ ':' :: rest = name ++ '@' :: version)
      (name_free : '@' ∉ name) (version_free : '@' ∉ version)
      (name_segment : Coordinates.isSegment (String.ofList name) = true)
      (version_segment : Coordinates.isSegment (String.ofList version) = true) :
      OtherReading head rest (.of "npm" "npmjs" none (String.ofList name) (String.ofList version))

/-- A slash before the next colon would stand in the name of the artifact or of the package. -/
theorem OtherReading.slash_not_mem {c : Coordinates} (h : OtherReading head rest c) :
    '/' ∉ Text.upTo ':' rest := by
  intro hslash
  cases h with
  | @artifact index name version _ named _ name_segment _ =>
    have hname : Text.upTo ':' rest = name := by
      have hhead := head?_splitOn ':' rest
      rw [List.getElem?_cons_succ, ← List.head?_eq_getElem?, hhead] at named
      exact Option.some.inj named
    rw [hname] at hslash
    exact Coordinates.slash_not_mem_of_isSegment name_segment hslash
  | @package name version _ text _ _ name_segment version_segment =>
    have hmem : '/' ∈ name ++ '@' :: version := by
      rw [← text]
      exact List.mem_append_right _ (List.mem_cons_of_mem _ (Text.mem_of_mem_upTo hslash))
    rcases List.mem_append.1 hmem with hname | hversion
    · exact Coordinates.slash_not_mem_of_isSegment name_segment hname
    · rcases List.mem_cons.1 hversion with hat | hversion
      · exact absurd hat (by decide)
      · exact Coordinates.slash_not_mem_of_isSegment version_segment hversion

/-- Well-formed coordinates in the Maven notation. -/
theorem Maven.read_iff_of_scheme (text : Text.trimChars s.toList = head ++ ':' :: rest)
    (spelled : PackageUrl.Spells head) {index : Nat}
    (versioned : versionIndex? (head :: rest.splitOn ':') = some index) {c : Coordinates} :
    read s = some c ∧ c.isWellFormed = true ↔ OtherReading head rest c := by
  obtain ⟨name, version, hname, hversion⟩ := exists_fields versioned
  have hread : read s = some (.of "maven" "mavencentral" (some (String.ofList head))
      (String.ofList name) (String.ofList version)) := by
    rw [read_of_scheme text spelled, versioned, Option.map_some, List.getD_eq_getElem?_getD,
      List.getD_eq_getElem?_getD, hname, hversion]
    rfl
  have hfixed : (Coordinates.isSegment "maven" && Coordinates.isSegment "mavencentral") = true := by
    decide
  have hwell : (Coordinates.of "maven" "mavencentral" (some (String.ofList head))
      (String.ofList name) (String.ofList version)).isWellFormed =
        (Coordinates.isSegment (String.ofList name) &&
          Coordinates.isSegment (String.ofList version)) := by
    rw [Coordinates.isWellFormed_of, Option.getD_some, spelled.isSegment, Bool.true_and, hfixed,
      Bool.true_and]
  rw [hread]
  constructor
  · rintro ⟨hc, hgood⟩
    obtain rfl := Option.some.inj hc
    rw [hwell, Bool.and_eq_true] at hgood
    exact .artifact versioned hname hversion hgood.1 hgood.2
  · intro h
    cases h with
    | artifact versioned' named placed name_segment version_segment =>
      rw [versioned] at versioned'
      obtain rfl := Option.some.inj versioned'
      rw [hname] at named
      rw [hversion] at placed
      obtain rfl := Option.some.inj named
      obtain rfl := Option.some.inj placed
      exact ⟨rfl, by rw [hwell, name_segment, version_segment, Bool.and_self]⟩
    | package unversioned =>
      rw [versioned] at unversioned
      cases unversioned

/-- Well-formed coordinates in the npm notation. -/
theorem Npm.read_iff_of_scheme (text : Text.trimChars s.toList = head ++ ':' :: rest)
    (spelled : PackageUrl.Spells head)
    (unversioned : Maven.versionIndex? (head :: rest.splitOn ':') = none) {c : Coordinates} :
    read s = some c ∧ c.isWellFormed = true ↔ OtherReading head rest c := by
  rw [read_of_scheme text spelled, readNamed_iff]
  constructor
  · rintro ⟨name, version, htext, hname, hversion, hsegment, hsegment', rfl⟩
    exact .package unversioned htext hname hversion hsegment hsegment'
  · intro h
    cases h with
    | artifact versioned =>
      rw [unversioned] at versioned
      cases versioned
    | @package name version _ htext hname hversion hsegment hsegment' =>
      exact ⟨name, version, htext, hname, hversion, hsegment, hsegment', rfl⟩

end refused

namespace ComponentId

variable {s : String} {head rest : List Char}

/-- What the reader of package URLs refuses is a valid id only by another reading. -/
theorem read_refused_iff (text : Text.trimChars s.toList = head ++ ':' :: rest)
    (spelled : PackageUrl.Spells head) (refused : PackageUrl.read s = none) {c : Coordinates} :
    read s = .located c ∧ (read s).isValid = true ↔ OtherReading head rest c := by
  have hfive := FivePart.read_eq_none_of_scheme text spelled
  have hlocated {d : Coordinates} :
      located d = located c ∧ (located d).isValid = true ↔
        some d = some c ∧ c.isWellFormed = true := by
    rw [located.injEq, Option.some.injEq]
    refine and_congr_right ?_
    rintro rfl
    rfl
  -- With the scheme in front Maven is tried first, and npm only where that finds no version.
  cases hindex : Maven.versionIndex? (head :: rest.splitOn ':') with
  | some index =>
    obtain ⟨d, hmaven⟩ : ∃ d, Maven.read s = some d := by
      rw [Maven.read_of_scheme text spelled, hindex]
      exact ⟨_, rfl⟩
    have hread : read s = .located d := by
      refine read_of_first [.fivePart, .packageUrl] rfl ?_ hmaven
      simp [Notation.read, hfive, refused]
    rw [hread, hlocated, ← hmaven, Maven.read_iff_of_scheme text spelled hindex]
  | none =>
    have hmaven : Maven.read s = none := by
      rw [Maven.read_of_scheme text spelled, hindex, Option.map_none]
    rw [← Npm.read_iff_of_scheme text spelled hindex]
    cases hnpm : Npm.read s with
    | some d =>
      have hread : read s = .located d := by
        refine read_of_first [.fivePart, .packageUrl, .maven] rfl ?_ hnpm
        simp [Notation.read, hfive, refused, hmaven]
      rw [hread, hlocated]
    | none =>
      have hread : read s = .ofUnrecognised s := by
        simp [read, Notation.all, Notation.read, hfive, refused, hmaven, hnpm]
      simp [hread, ofUnrecognised]

/-- Text that starts with the scheme is the id that the reader of package URLs makes of it. What
this reader refuses can be a valid id of Maven or of npm, but not if there is a slash before the
next colon. -/
theorem read_packageUrl_or_other (text : Text.trimChars s.toList = head ++ ':' :: rest)
    (spelled : PackageUrl.Spells head) :
    (∀ c, PackageUrl.read s = some c → read s = .located c) ∧
    (PackageUrl.read s = none →
      (∀ c, read s = .located c ∧ (read s).isValid = true ↔ OtherReading head rest c) ∧
      ('/' ∈ Text.upTo ':' rest → (read s).isValid = false)) := by
  refine ⟨fun c hc => ?_, fun refused => ⟨fun c => read_refused_iff text spelled refused, ?_⟩⟩
  · have hfive := FivePart.read_eq_none_of_scheme text spelled
    exact read_of_first [.fivePart] rfl (by simp [Notation.read, hfive]) hc
  · intro hslash
    by_contra hvalid
    rw [Bool.not_eq_false] at hvalid
    obtain ⟨c, hlocated⟩ : ∃ c, read s = .located c := by
      cases hread : read s with
      | located c => exact ⟨c, rfl⟩
      | unrecognised text =>
        rw [hread] at hvalid
        cases hvalid
    have hother := (read_refused_iff text spelled refused).1 ⟨hlocated, hvalid⟩
    exact hother.slash_not_mem hslash

/-- A package URL without a type is refused, and taken for a package of npm. -/
theorem read_bare_url_as_package :
    Text.trimChars "pkg:npm@1.0".toList = "pkg".toList ++ ':' :: "npm@1.0".toList ∧
      PackageUrl.Spells "pkg".toList ∧ PackageUrl.read "pkg:npm@1.0" = none ∧
      read "pkg:npm@1.0" = .located ⟨"npm", "npmjs", none, "pkg:npm", "1.0"⟩ ∧
      (read "pkg:npm@1.0").isValid = true := by
  refine ⟨by decide +kernel, ?_, by decide +kernel, by decide +kernel, by decide +kernel⟩
  rw [PackageUrl.Spells]
  decide

/-- The path of a Go module is refused and not valid; a name without scope is accepted; and text
without a slash is read as an artifact. -/
theorem read_packageUrl_or_other_of_three_texts :
    (read " pkg:golang/github.com/gorilla/mux@v1.8.0").isValid = false ∧
      read "PKG:NPM/foobar@1.0.0" = .located ⟨"npm", "npmjs", none, "foobar", "1.0.0"⟩ ∧
      PackageUrl.read "pkg:a:1" = none ∧
      OtherReading "pkg".toList "a:1".toList ⟨"maven", "mavencentral", some "pkg", "a", "1"⟩ := by
  have hmodule : Text.trimChars " pkg:golang/github.com/gorilla/mux@v1.8.0".toList =
      "pkg".toList ++ ':' :: "golang/github.com/gorilla/mux@v1.8.0".toList := by decide +kernel
  have hnamed : Text.trimChars "PKG:NPM/foobar@1.0.0".toList =
      "PKG".toList ++ ':' :: "NPM/foobar@1.0.0".toList := by decide +kernel
  have hplain : Text.trimChars "pkg:a:1".toList = "pkg".toList ++ ':' :: "a:1".toList := by
    decide +kernel
  have hlower : PackageUrl.Spells "pkg".toList ∧ PackageUrl.Spells "PKG".toList := by
    rw [PackageUrl.Spells, PackageUrl.Spells]
    decide
  have hrefused : PackageUrl.read "pkg:a:1" = none := by decide +kernel
  refine ⟨?_, ?_, hrefused, ?_⟩
  · exact ((read_packageUrl_or_other hmodule hlower.1).2 (by decide +kernel)).2 (by decide +kernel)
  · exact (read_packageUrl_or_other hnamed hlower.2).1 _ (by decide +kernel)
  · obtain ⟨hother, -⟩ := (read_packageUrl_or_other hplain hlower.1).2 hrefused
    exact (hother _).1 ⟨by decide +kernel, by decide +kernel⟩

end ComponentId

end Clearance
