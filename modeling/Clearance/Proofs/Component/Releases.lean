import Clearance.Component.Notation
import Clearance.Proofs.Component.Words
import Mathlib.Data.List.Nodup

/-!
# One release, one id

A release can be written in several notations, and a dependency list may name it in more than one
of them. `Release.IsWritten` lists the ways to write a release of a Maven artifact or of an npm
package. Each of them is read as the one id of the release (`Release.IsWritten.read_eq`), so that a
list keeps one entry for it.
-/

set_option autoImplicit false

namespace Clearance

/-- A release that can be written in several notations: of a Maven artifact that is no Eclipse
bundle, or of an npm package. -/
inductive Release where
  | artifact (group name version : PlainWord)
      (notBundle : Maven.bundlePrefix.toList.isPrefixOf group.chars = false)
      (versioned : version.startsVersion = true)
  | package (name version : PlainWord)
  | scopedPackage (scope name version : PlainWord)

namespace Release

/-- Where the release is published, with its name and version. -/
def coordinates : Release → Coordinates
  | artifact group name version _ _ =>
    .of "maven" "mavencentral" (some group.text) name.text version.text
  | package name version => .of "npm" "npmjs" none name.text version.text
  | scopedPackage scope name version =>
    .of "npm" "npmjs" (some ("@" ++ scope.text)) name.text version.text

/-- Qualifiers and a subpath, each with its mark, where they are given. -/
def urlTail (qualifiers subpath : Option String) : String :=
  qualifiers.elim "" ("?" ++ ·) ++ subpath.elim "" ("#" ++ ·)

/-- The ways to write a release. -/
inductive IsWritten : Release → String → Prop where
  | bare {group name version : PlainWord} {notBundle versioned} :
      IsWritten (.artifact group name version notBundle versioned)
        (Maven.joined [group, name, version])
  | typed {group name version : PlainWord} {notBundle versioned} (type : PlainWord) :
      IsWritten (.artifact group name version notBundle versioned)
        (Maven.joined [group, name, type, version])
  /-- A scope that starts like a version would be taken for it. -/
  | typedInScope {group name version : PlainWord} {notBundle versioned} (type inScope : PlainWord)
      (noVersion : inScope.startsVersion = false) :
      IsWritten (.artifact group name version notBundle versioned)
        (Maven.joined [group, name, type, version, inScope])
  | classified {group name version : PlainWord} {notBundle versioned}
      (type classifier inScope : PlainWord) :
      IsWritten (.artifact group name version notBundle versioned)
        (Maven.joined [group, name, type, classifier, version, inScope])
  | artifactUrl {group name version : PlainWord} {notBundle versioned}
      (qualifiers subpath : Option String) :
      IsWritten (.artifact group name version notBundle versioned)
        ("pkg:maven/" ++ group.text ++ "/" ++ name.text ++ "@" ++ version.text ++
          urlTail qualifiers subpath)
  | artifactParts {group name version : PlainWord} {notBundle versioned} :
      IsWritten (.artifact group name version notBundle versioned)
        ("maven/mavencentral/" ++ group.text ++ "/" ++ name.text ++ "/" ++ version.text)
  | named {name version : PlainWord} :
      IsWritten (.package name version) (name.text ++ "@" ++ version.text)
  | packageUrl {name version : PlainWord} (qualifiers subpath : Option String) :
      IsWritten (.package name version)
        ("pkg:npm/" ++ name.text ++ "@" ++ version.text ++ urlTail qualifiers subpath)
  | packageParts {name version : PlainWord} :
      IsWritten (.package name version) ("npm/npmjs/-/" ++ name.text ++ "/" ++ version.text)
  | scopedNamed {scope name version : PlainWord} :
      IsWritten (.scopedPackage scope name version)
        ("@" ++ scope.text ++ "/" ++ name.text ++ "@" ++ version.text)
  | scopedUrl {scope name version : PlainWord} (qualifiers subpath : Option String) :
      IsWritten (.scopedPackage scope name version)
        ("pkg:npm/%40" ++ scope.text ++ "/" ++ name.text ++ "@" ++ version.text ++
          urlTail qualifiers subpath)
  | scopedParts {scope name version : PlainWord} :
      IsWritten (.scopedPackage scope name version)
        ("npm/npmjs/@" ++ scope.text ++ "/" ++ name.text ++ "/" ++ version.text)

/-! ## Dependencies -/

section versionIndex?

variable {group name version : PlainWord} (versioned : version.startsVersion = true)

include versioned

/-- Of three fields the last one is the version. -/
theorem versionIndex?_bare :
    Maven.versionIndex? ([group, name, version].map (·.chars)) = some 2 := by
  simp [Maven.versionIndex?, Maven.versionAt, Maven.isFilled_chars, Maven.isVersion_chars,
    versioned]

/-- Behind a type the version is the last of four fields. -/
theorem versionIndex?_typed (type : PlainWord) :
    Maven.versionIndex? ([group, name, type, version].map (·.chars)) = some 3 := by
  simp [Maven.versionIndex?, Maven.versionAt, Maven.isFilled_chars, Maven.isPlain_chars,
    Maven.isVersion_chars, versioned]

/-- A dependency scope behind the version is not taken for it. -/
theorem versionIndex?_typedInScope (type : PlainWord) {inScope : PlainWord}
    (noVersion : inScope.startsVersion = false) :
    Maven.versionIndex? ([group, name, type, version, inScope].map (·.chars)) = some 3 := by
  simp [Maven.versionIndex?, Maven.versionAt, Maven.isFilled_chars, Maven.isPlain_chars,
    Maven.isVersion_chars, versioned, noVersion]

/-- Of six fields the last but one is the version. -/
theorem versionIndex?_classified (type classifier inScope : PlainWord) :
    Maven.versionIndex? ([group, name, type, classifier, version, inScope].map (·.chars)) =
      some 4 := by
  simp [Maven.versionIndex?, Maven.versionAt, Maven.isFilled_chars, Maven.isPlain_chars,
    Maven.isVersion_chars, versioned]

end versionIndex?

/-! ## Package URLs -/

/-- Qualifiers and a subpath are a tail of the URL. -/
theorem isTail_urlTail (qualifiers subpath : Option String) :
    PackageUrl.IsTail (urlTail qualifiers subpath).toList := by
  rw [urlTail, String.toList_append]
  cases qualifiers with
  | some qualifiers => simp [PackageUrl.IsTail]
  | none => cases subpath <;> simp [PackageUrl.IsTail]

section read

variable (scope group name version : PlainWord) (qualifiers subpath : Option String)

/-- The URL of an artifact is read as its coordinates. -/
theorem read_artifactUrl :
    ComponentId.read ("pkg:maven/" ++ group.text ++ "/" ++ name.text ++ "@" ++ version.text ++
        urlTail qualifiers subpath) =
      .located (.of "maven" "mavencentral" (some group.text) name.text version.text) := by
  have hplain : ∀ part ∈ ["maven".toList, group.chars], ∀ c ∈ part,
      isPlainChar c = true ∨ c = '%' := by
    have hkind : "maven".toList.all isPlainChar = true := by decide
    simp only [List.forall_mem_cons]
    exact ⟨PackageUrl.plain_of_all hkind, PackageUrl.plain_of_all group.plain, by simp⟩
  have hdecodes : [group.chars].mapM Text.percentDecode? = some (some group.text).toList := by
    simp [PlainWord.percentDecode?_chars]
  refine PackageUrl.read_words (by decide) hplain hdecodes (isTail_urlTail qualifiers subpath) ?_
  simp [PackageUrl.Pieces.body, PackageUrl.Pieces.path, PackageUrl.Pieces.segments,
    PlainWord.chars]

/-- The URL of a package is read as its coordinates. -/
theorem read_packageUrl :
    ComponentId.read ("pkg:npm/" ++ name.text ++ "@" ++ version.text ++
        urlTail qualifiers subpath) =
      .located (.of "npm" "npmjs" none name.text version.text) := by
  have hplain : ∀ part ∈ ["npm".toList], ∀ c ∈ part, isPlainChar c = true ∨ c = '%' := by
    have hkind : "npm".toList.all isPlainChar = true := by decide
    rw [List.forall_mem_singleton]
    exact PackageUrl.plain_of_all hkind
  refine PackageUrl.read_words (by decide) hplain rfl (isTail_urlTail qualifiers subpath) ?_
  simp [PackageUrl.Pieces.body, PackageUrl.Pieces.path, PackageUrl.Pieces.segments,
    PlainWord.chars]

/-- The at sign of the scope is escaped in a package URL. -/
theorem read_scopedUrl :
    ComponentId.read ("pkg:npm/%40" ++ scope.text ++ "/" ++ name.text ++ "@" ++ version.text ++
        urlTail qualifiers subpath) =
      .located (.of "npm" "npmjs" (some ("@" ++ scope.text)) name.text version.text) := by
  have hplain : ∀ part ∈ ["npm".toList, '%' :: '4' :: '0' :: scope.chars], ∀ c ∈ part,
      isPlainChar c = true ∨ c = '%' := by
    have hkind : "npm".toList.all isPlainChar = true := by decide
    simp only [List.forall_mem_cons]
    exact ⟨PackageUrl.plain_of_all hkind,
      ⟨by decide, by decide, by decide, PackageUrl.plain_of_all scope.plain⟩, by simp⟩
  have hdecodes : ['%' :: '4' :: '0' :: scope.chars].mapM Text.percentDecode? =
      some (some ("@" ++ scope.text)).toList := by
    have hescape : '%' ∉ scope.chars := scope.not_mem (by decide)
    simp [Text.percentDecode?_at hescape, scope.ofList_at_cons]
  refine PackageUrl.read_words (by decide) hplain hdecodes (isTail_urlTail qualifiers subpath) ?_
  simp [PackageUrl.Pieces.body, PackageUrl.Pieces.path, PackageUrl.Pieces.segments,
    PlainWord.chars]

/-! ## Five parts -/

/-- The five parts of an artifact are read as its coordinates. -/
theorem read_artifactParts :
    ComponentId.read
        ("maven/mavencentral/" ++ group.text ++ "/" ++ name.text ++ "/" ++ version.text) =
      .located (.of "maven" "mavencentral" (some group.text) name.text version.text) := by
  have hfront : "maven/mavencentral/" = "maven" ++ "/" ++ "mavencentral" ++ "/" := by decide
  rw [hfront]
  exact FivePart.read_words (by decide) (by decide) ⟨group.nonempty, group.all_isScopeChar⟩

/-- The five parts of a package are read as its coordinates. -/
theorem read_packageParts :
    ComponentId.read ("npm/npmjs/-/" ++ name.text ++ "/" ++ version.text) =
      .located (.of "npm" "npmjs" none name.text version.text) := by
  have hfront : "npm/npmjs/-/" = "npm" ++ "/" ++ "npmjs" ++ "/" ++ "-" ++ "/" := by decide
  have habsent : Coordinates.of "npm" "npmjs" none name.text version.text =
      .of "npm" "npmjs" (some "-") name.text version.text := rfl
  rw [hfront, habsent]
  exact FivePart.read_words (by decide) (by decide) (by decide)

/-- The five parts of a scoped package are read as its coordinates. -/
theorem read_scopedParts :
    ComponentId.read ("npm/npmjs/@" ++ scope.text ++ "/" ++ name.text ++ "/" ++ version.text) =
      .located (.of "npm" "npmjs" (some ("@" ++ scope.text)) name.text version.text) := by
  have hfront : "npm/npmjs/@" ++ scope.text =
      "npm" ++ "/" ++ "npmjs" ++ "/" ++ ("@" ++ scope.text) := by
    rw [← String.append_assoc]
    rfl
  have hscope : ("@" ++ scope.text).toList.all FivePart.isScopeChar = true := by
    have hat : "@".toList.all FivePart.isScopeChar = true := by decide
    rw [String.toList_append, List.all_append, hat]
    exact scope.all_isScopeChar
  rw [hfront]
  exact FivePart.read_words (by decide) (by decide) ⟨by simp, hscope⟩

end read

/-- Every way to write a release is read as its id. -/
theorem IsWritten.read_eq {r : Release} {text : String} (h : r.IsWritten text) :
    ComponentId.read text = .located r.coordinates := by
  cases h with
  | @bare _ _ _ notBundle versioned =>
    exact Maven.read_joined notBundle (versionIndex?_bare versioned) rfl
  | @typed _ _ _ notBundle versioned type =>
    exact Maven.read_joined notBundle (versionIndex?_typed versioned type) rfl
  | @typedInScope _ _ _ notBundle versioned type inScope noVersion =>
    exact Maven.read_joined notBundle (versionIndex?_typedInScope versioned type noVersion) rfl
  | @classified _ _ _ notBundle versioned type classifier inScope =>
    exact Maven.read_joined notBundle
      (versionIndex?_classified versioned type classifier inScope) rfl
  | artifactUrl qualifiers subpath => exact read_artifactUrl _ _ _ qualifiers subpath
  | artifactParts => exact read_artifactParts _ _ _
  | named => exact Npm.read_words (by simp [PlainWord.chars])
  | packageUrl qualifiers subpath => exact read_packageUrl _ _ qualifiers subpath
  | packageParts => exact read_packageParts _ _
  | scopedNamed => exact Npm.read_scoped_words (by simp [PlainWord.chars])
  | scopedUrl qualifiers subpath => exact read_scopedUrl _ _ _ qualifiers subpath
  | scopedParts => exact read_scopedParts _ _ _

end Release

/-! ## Dependency lists -/

namespace ComponentId

/-- What is kept of a list is in the list. -/
theorem mem_of_mem_firstOccurrences {id : ComponentId} {ids : List ComponentId}
    (h : id ∈ firstOccurrences ids) : id ∈ ids := by
  induction ids with
  | nil => exact h
  | cons head ids ih =>
    rcases List.mem_cons.1 h with rfl | hrest
    · exact List.mem_cons_self
    · exact List.mem_cons_of_mem _ (ih (List.mem_filter.1 hrest).1)

/-- Of the ids of one component only one is a first occurrence. -/
theorem count_firstOccurrences {id : ComponentId} {ids : List ComponentId} (h : id ∈ ids) :
    ((firstOccurrences ids).map (·.canonical)).count id.canonical = 1 := by
  have hdistinct : ((firstOccurrences ids).map (·.canonical)).Nodup :=
    List.pairwise_map.2 (pairwise_firstOccurrences ids)
  obtain ⟨first, hfirst, hsame⟩ := exists_mem_firstOccurrences h
  refine List.count_eq_one_of_mem hdistinct ?_
  rw [← hsame]
  exact List.mem_map_of_mem hfirst

/-- A list of equal ids keeps one of them. -/
theorem firstOccurrences_of_forall_eq {id : ComponentId} {ids : List ComponentId}
    (nonempty : ids ≠ []) (same : ∀ other ∈ ids, other = id) : firstOccurrences ids = [id] := by
  cases ids with
  | nil => exact absurd rfl nonempty
  | cons head ids =>
    obtain ⟨rfl, hids⟩ := List.forall_mem_cons.1 same
    rw [firstOccurrences, List.filter_eq_nil_iff.2]
    intro other hother
    rw [hids other (mem_of_mem_firstOccurrences hother)]
    simp

end ComponentId

namespace Release

/-- No way to write a release is the empty text. -/
theorem IsWritten.isEmpty_eq_false {r : Release} {text : String} (h : r.IsWritten text) :
    text.isEmpty = false := by
  by_contra hempty
  rw [Bool.not_eq_false, String.isEmpty_iff] at hempty
  have hread := h.read_eq
  rw [hempty] at hread
  have hblank : (ComponentId.read "").coordinates? = none := by decide +kernel
  rw [hread] at hblank
  cases hblank

/-- A release has one id in all its notations, with the same coordinates. So a readable dependency
list that names the release has one entry for it, and no other if it names no other component. -/
theorem read_eq_of_isWritten (r : Release) :
    (∀ text, r.IsWritten text → ComponentId.read text = .located r.coordinates) ∧
    ∀ bytes lines, Listing.lines? bytes = some lines →
      (∃ line ∈ lines, r.IsWritten (Text.trim line)) →
        ∃ ids, Listing.read? bytes = some ids ∧
          (ids.map (·.canonical)).count r.coordinates.canonical = 1 ∧
          ((∀ line ∈ lines, Text.trim line ≠ "" → r.IsWritten (Text.trim line)) →
            ids = [.located r.coordinates]) := by
  refine ⟨fun text h => h.read_eq, ?_⟩
  rintro bytes lines hlines ⟨line, hline, hwritten⟩
  have hmem : ComponentId.located r.coordinates ∈
      ((lines.map Text.trim).filter (!·.isEmpty)).map ComponentId.read := by
    have hkept : Text.trim line ∈ (lines.map Text.trim).filter (!·.isEmpty) := by
      refine List.mem_filter.2 ⟨List.mem_map_of_mem hline, ?_⟩
      rw [hwritten.isEmpty_eq_false]
      rfl
    exact List.mem_map.2 ⟨Text.trim line, hkept, hwritten.read_eq⟩
  refine ⟨Listing.ofLines lines, by rw [Listing.read?, hlines, Option.map_some], ?_, ?_⟩
  · exact ComponentId.count_firstOccurrences hmem
  · intro hall
    refine ComponentId.firstOccurrences_of_forall_eq (List.ne_nil_of_mem hmem) ?_
    intro id hid
    obtain ⟨text, htext, rfl⟩ := List.mem_map.1 hid
    obtain ⟨htrim, hfilled⟩ := List.mem_filter.1 htext
    obtain ⟨other, hother, rfl⟩ := List.mem_map.1 htrim
    exact (hall other hother (by simpa using hfilled)).read_eq

/-- One package in three notations, one of them with blanks around it. -/
theorem read_eq_of_isWritten_of_three_notations :
    let named := "@babel/core@7.22.5"
    let url := "pkg:npm/%40babel/core@7.22.5?type=module#dist"
    let parts := "npm/npmjs/@babel/core/7.22.5"
    let package : ComponentId := .located ⟨"npm", "npmjs", some "@babel", "core", "7.22.5"⟩
    ComponentId.read named = package ∧ ComponentId.read url = package ∧
      ComponentId.read parts = package ∧
      Listing.read? (named ++ "\n " ++ url ++ "\r\n" ++ parts).toUTF8.toList = some [package] := by
  intro named url parts package
  let release : Release := .scopedPackage ⟨"babel", by decide, by decide⟩
    ⟨"core", by decide, by decide⟩ ⟨"7.22.5", by decide, by decide⟩
  have hnamed : release.IsWritten named := .scopedNamed
  have hurl : release.IsWritten url := .scopedUrl (some "type=module") (some "dist")
  have hparts : release.IsWritten parts := .scopedParts
  obtain ⟨hread, hlist⟩ := read_eq_of_isWritten release
  refine ⟨hread named hnamed, hread url hurl, hread parts hparts, ?_⟩
  have hlines : Listing.lines? (named ++ "\n " ++ url ++ "\r\n" ++ parts).toUTF8.toList =
      some [named, " " ++ url ++ "\r", parts] := by decide +kernel
  have htrim : Text.trim named = named ∧ Text.trim (" " ++ url ++ "\r") = url ∧
      Text.trim parts = parts := by decide +kernel
  have hall : ∀ line ∈ [named, " " ++ url ++ "\r", parts],
      release.IsWritten (Text.trim line) := by
    simp only [List.forall_mem_cons, htrim]
    exact ⟨hnamed, hurl, hparts, by simp⟩
  obtain ⟨ids, hids, -, hone⟩ := hlist _ _ hlines ⟨named, by simp, hall named (by simp)⟩
  rw [hids, hone fun line hline _ => hall line hline]
  rfl

end Release

end Clearance
