import Clearance.Component.Notation.Maven
import Clearance.Proofs.Text.Pattern
import Mathlib

/-!
# Maven dependencies

A line in Maven notation is matched against a pattern in which a type, a classifier behind it and a
scope can be there or not. So a line with many fields can match in several ways: the version can be
at several indices (`Maven.Reading`). The pattern prefers a type and a classifier to none, so in the
first way that matches, the version is as far to the right as possible
(`Maven.captures?_pattern`). The reader looks at the fields alone and finds the same version
(`Maven.read_eq_captures?`).
-/

set_option autoImplicit false

namespace Clearance.Maven

open Pattern

/-! ## The pattern -/

/-- Characters of a field other than the scope. -/
def isFieldChar (c : Char) : Bool := c != ':' && c != ' '

/-- A group, an artifact or a classifier. -/
def filledField : Pattern := (one isFieldChar).atLeastOnce

/-- The field of the version: a digit, and then anything but blanks and colons. -/
def versionField : Pattern :=
  (mark 'v').optional ++ (one Text.isDigit ++ repeated (one isFieldChar))

/-- The classifier behind its colon. -/
def classified : Pattern := mark ':' ++ group "classifier" filledField

/-- The type behind its colon, and perhaps a classifier. -/
def typed : Pattern := mark ':' ++ group "type" (repeated (one isFieldChar)) ++ classified.optional

/-- The dependency scope behind its colon. -/
def inScope : Pattern := mark ':' ++ group "scope" (repeated (one (· != ':')))

/-- The version behind its colon, and perhaps a dependency scope. -/
def versioned : Pattern := mark ':' ++ (group "version" versionField ++ inScope.optional)

/-- `group:artifact[:type[:classifier]]:version[:scope]`. -/
def pattern : Pattern :=
  group "group" filledField ++
    (mark ':' ++ (group "artifact" filledField ++ (typed.optional ++ versioned)))

/-- A colon ends a field. -/
theorem isFieldChar_colon : isFieldChar ':' = false := by decide

/-- A field without colons may hold anything but blanks. -/
theorem all_isFieldChar {field : List Char} (free : ':' ∉ field) :
    field.all isFieldChar = isPlain field := all_ne_and free (· != ' ')

/-- A field that may be empty is read if it is plain. -/
theorem reads_plain : (repeated (one isFieldChar)).Reads ':' isPlain :=
  (reads_repeated_one isFieldChar_colon).congr fun _ free => (all_isFieldChar free).symm

/-- A field that may not be empty is read if it is filled. -/
theorem reads_filledField : filledField.Reads ':' isFilled := by
  refine (reads_atLeastOnce_one isFieldChar_colon).congr fun field free => ?_
  rw [isFilled, all_isFieldChar free]

/-- Any field is read as a dependency scope. -/
theorem reads_scope : (repeated (one (· != ':'))).Reads ':' fun _ => true := by
  refine (reads_repeated_one (by decide)).congr fun field free => ?_
  have hall := (all_ne_and free fun _ => true).trans (List.all_eq_true.2 fun _ _ => rfl)
  simp only [Bool.and_true] at hall
  exact hall.symm

/-- A digit in front of a field is no blank. -/
theorem isPlain_cons_of_isDigit {c : Char} (h : Text.isDigit c = true) (field : List Char) :
    isPlain (c :: field) = isPlain field := by
  have hne : c ≠ ' ' := by
    rintro rfl
    exact absurd h (by decide)
  simp [isPlain, hne]

/-- The letter `v` is no digit, so it is clear if a version begins with it. -/
theorem reads_versionField : versionField.Reads ':' isVersion := by
  have hdigit : Text.isDigit 'v' = false := by decide
  have hnumber := reads_plain.one_append Text.isDigit (by decide)
  have hletter := hnumber.one_append (· == 'v') (by decide)
  refine (hletter.optional_append hnumber).congr fun field _ => ?_
  cases field with
  | nil => rfl
  | cons c field =>
    by_cases hv : c = 'v'
    · subst hv
      cases field with
      | nil => simp [isVersion, hdigit]
      | cons d field =>
        by_cases hd : Text.isDigit d = true
        · have hplain : isPlain ('v' :: d :: field) = isPlain field := by
            rw [← isPlain_cons_of_isDigit hd field]
            rfl
          simp [isVersion, hd, hdigit, hplain]
        · simp [isVersion, hd, hdigit]
    · by_cases hc : Text.isDigit c = true
      · simp [isVersion, hv, hc, isPlain_cons_of_isDigit hc]
      · simp [isVersion, hv, hc]

/-! ## Readings as ways to match -/

/-- A version begins with a colon. -/
theorem follows_versioned : versioned.Follows ':' := follows_mark_append _

/-- A dependency scope begins with a colon or is absent. -/
theorem follows_inScope : inScope.optional.Follows ':' := (follows_mark_append _).optional

/-- What follows a type begins with a colon. -/
theorem follows_classified : (classified.optional ++ versioned).Follows ':' :=
  (follows_mark_append _).append_assoc.optional_append follows_versioned

/-- What follows an artifact begins with a colon. -/
theorem follows_typed : (typed.optional ++ versioned).Follows ':' :=
  (follows_mark_append _).append_assoc.append_assoc.optional_append follows_versioned

/-- What perhaps a scope is captured as. -/
def scopeCaptures? : List (List Char) → Option (List (String × List Char))
  | [] => some []
  | [scope] => some [("scope", scope)]
  | _ => none

/-- What a version is captured as, with perhaps a scope behind it. -/
def versionCaptures? : List (List Char) → Option (List (String × List Char))
  | [] => none
  | version :: rest =>
    if isVersion version then (scopeCaptures? rest).map (("version", version) :: ·) else none

/-- The same with perhaps a classifier before the version. -/
def classifierCaptures? : List (List Char) → Option (List (String × List Char))
  | [] => none
  | field :: rest =>
    (if isFilled field then (versionCaptures? rest).map (("classifier", field) :: ·) else none).or
      (versionCaptures? (field :: rest))

/-- The same with perhaps a type before that, and a classifier behind a type only. -/
def typeCaptures? : List (List Char) → Option (List (String × List Char))
  | [] => none
  | field :: rest =>
    (if isPlain field then (classifierCaptures? rest).map (("type", field) :: ·) else none).or
      (versionCaptures? (field :: rest))

section tries

variable {fields : List (List Char)} (free : ∀ f ∈ fields, ':' ∉ f)
  (captured : List (String × List Char))

include free

/-- How a dependency scope is tried on the fields that are left. -/
theorem tries_inScope :
    inScope.optional.tries (behind ':' fields) (finish captured) =
      (scopeCaptures? fields).map (captured ++ ·) := by
  rw [tries_optional, finish_behind, inScope]
  cases fields with
  | nil =>
    rw [tries_mark_append_nil]
    rfl
  | cons scope rest =>
    rw [tries_mark_group reads_scope "scope" (free scope List.mem_cons_self)]
    cases rest <;> rfl

/-- How a version and what follows it are tried on the fields that are left. -/
theorem tries_versioned :
    versioned.tries (behind ':' fields) (finish captured) =
      (versionCaptures? fields).map (captured ++ ·) := by
  cases fields with
  | nil => exact tries_mark_append_nil _ _
  | cons version rest =>
    rw [List.forall_mem_cons] at free
    rw [versioned, tries_mark_group_append reads_versionField follows_inScope "version" free.1,
      tries_inScope free.2, versionCaptures?]
    by_cases hversion : isVersion version = true
    · simp [hversion, Function.comp_def]
    · simp [hversion]

/-- How a classifier and what follows it are tried on the fields that are left. -/
theorem tries_classified :
    (classified.optional ++ versioned).tries (behind ':' fields) (finish captured) =
      (classifierCaptures? fields).map (captured ++ ·) := by
  rw [tries_optional_append, tries_versioned free, classified, tries_append_assoc]
  cases fields with
  | nil =>
    rw [tries_mark_append_nil]
    rfl
  | cons field rest =>
    rw [List.forall_mem_cons] at free
    rw [tries_mark_group_append reads_filledField follows_versioned "classifier" free.1,
      tries_versioned free.2, classifierCaptures?, Option.map_or]
    by_cases hfilled : isFilled field = true
    · simp [hfilled, Function.comp_def]
    · simp [hfilled]

/-- How a type and what follows it are tried on the fields that are left. -/
theorem tries_typed :
    (typed.optional ++ versioned).tries (behind ':' fields) (finish captured) =
      (typeCaptures? fields).map (captured ++ ·) := by
  rw [tries_optional_append, tries_versioned free, typed, tries_append_assoc, tries_append_assoc]
  cases fields with
  | nil =>
    rw [tries_mark_append_nil]
    rfl
  | cons field rest =>
    rw [List.forall_mem_cons] at free
    rw [tries_mark_group_append reads_plain follows_classified "type" free.1,
      tries_classified free.2, typeCaptures?, Option.map_or]
    by_cases hplain : isPlain field = true
    · simp [hplain, Function.comp_def]
    · simp [hplain]

end tries

/-! ## The order of the ways -/

/-- What the fields before the version are captured as. -/
def frontCaptures? : List (List Char) → Option (List (String × List Char))
  | [grp, artifact] =>
    if isFilled grp && isFilled artifact then some [("group", grp), ("artifact", artifact)]
    else none
  | [grp, artifact, type] =>
    if isFilled grp && isFilled artifact && isPlain type then
      some [("group", grp), ("artifact", artifact), ("type", type)]
    else none
  | [grp, artifact, type, classifier] =>
    if isFilled grp && isFilled artifact && isPlain type && isFilled classifier then
      some [("group", grp), ("artifact", artifact), ("type", type), ("classifier", classifier)]
    else none
  | _ => none

/-- What the fields are captured as if the version is the one at `index`. -/
def capturesAt? (fields : List (List Char)) (index : Nat) : Option (List (String × List Char)) :=
  (frontCaptures? (fields.take index)).bind fun front =>
    (versionCaptures? (fields.drop index)).map (front ++ ·)

/-- No version is found behind a group or an artifact that is not filled. -/
theorem capturesAt?_eq_none {grp artifact : List Char}
    (unfilled : (isFilled grp && isFilled artifact) = false) (fields : List (List Char))
    {index : Nat} (two : 2 ≤ index) : capturesAt? (grp :: artifact :: fields) index = none := by
  obtain ⟨n, rfl⟩ : ∃ n, index = n + 2 := ⟨index - 2, by omega⟩
  have hfront : frontCaptures? (grp :: artifact :: fields.take n) = none := by
    unfold frontCaptures?
    split <;> simp_all
  rw [capturesAt?, List.take_succ_cons, List.take_succ_cons, hfront, Option.bind_none]

/-- A type is tried before none, and a classifier before none: the version is as far to the right
as possible. -/
theorem captures?_pattern (cs : List Char) :
    pattern.captures? cs = (capturesAt? (cs.splitOn ':') 4).or
      ((capturesAt? (cs.splitOn ':') 3).or (capturesAt? (cs.splitOn ':') 2)) := by
  obtain ⟨grp, fields, hcut, htext, free⟩ := exists_splitOn_eq_cons ':' cs
  rw [List.forall_mem_cons] at free
  rw [captures?_eq_tries, hcut, htext, pattern,
    tries_group_append reads_filledField (follows_mark_append _) "group" free.1]
  cases fields with
  | nil =>
    rw [tries_mark_append_nil]
    simp [capturesAt?, frontCaptures?]
  | cons artifact fields =>
    rw [List.forall_mem_cons] at free
    rw [tries_mark_group_append reads_filledField follows_typed "artifact" free.2.1,
      tries_typed free.2.2]
    by_cases hfilled : (isFilled grp && isFilled artifact) = true
    · obtain ⟨hgroup, hartifact⟩ := Bool.and_eq_true_iff.1 hfilled
      match fields with
      | [] => simp [capturesAt?, frontCaptures?, typeCaptures?, versionCaptures?]
      | [type] =>
        simp [capturesAt?, frontCaptures?, typeCaptures?, classifierCaptures?, versionCaptures?,
          hgroup, hartifact]
      | type :: classifier :: fields =>
        by_cases htype : isPlain type = true
        · by_cases hclassifier : isFilled classifier = true
          · simp [capturesAt?, frontCaptures?, typeCaptures?, classifierCaptures?, hgroup,
              hartifact, htype, hclassifier, Option.map_or, Option.or_assoc, Function.comp_def]
          · simp [capturesAt?, frontCaptures?, typeCaptures?, classifierCaptures?, hgroup,
              hartifact, htype, hclassifier, Option.map_or, Function.comp_def]
        · simp [capturesAt?, frontCaptures?, typeCaptures?, hgroup, hartifact, htype]
    · -- A group or an artifact that is not filled leaves no place for the version.
      rw [Bool.not_eq_true] at hfilled
      have hnone (index : Nat) (two : 2 ≤ index) := capturesAt?_eq_none hfilled fields two
      rw [hnone 4 (by omega), hnone 3 (by omega), hnone 2 (by omega)]
      rw [Bool.and_eq_false_iff] at hfilled
      rcases hfilled with hgroup | hartifact
      · simp [hgroup]
      · simp [hartifact]

/-! ## Readings -/

/-- The field at `index` can be the version. -/
structure Reading (fields : List (List Char)) (index : Nat) : Prop where
  place : index = 2 ∨ index = 3 ∨ index = 4
  last : index + 1 = fields.length ∨ index + 2 = fields.length
  group : fields.getD 0 [] ≠ [] ∧ ' ' ∉ fields.getD 0 []
  artifact : fields.getD 1 [] ≠ [] ∧ ' ' ∉ fields.getD 1 []
  type : 3 ≤ index → ' ' ∉ fields.getD 2 []
  classifier : index = 4 → fields.getD 3 [] ≠ [] ∧ ' ' ∉ fields.getD 3 []
  version : ' ' ∉ fields.getD index [] ∧ ∃ digit rest, Text.isDigit digit = true ∧
    (fields.getD index [] = digit :: rest ∨ fields.getD index [] = 'v' :: digit :: rest)

/-- A field is plain if it holds no blank. -/
theorem isPlain_iff {field : List Char} : isPlain field = true ↔ ' ' ∉ field := by
  rw [isPlain, List.all_eq_true]
  constructor
  · intro h hspace
    exact absurd (h ' ' hspace) (by decide)
  · intro h c hc
    rw [bne_iff_ne]
    rintro rfl
    exact h hc

/-- A field is filled if it is not empty and holds no blank. -/
theorem isFilled_iff {field : List Char} : isFilled field = true ↔ field ≠ [] ∧ ' ' ∉ field := by
  simp [isFilled, isPlain_iff]

/-- The letter `v` is no digit, so at most one of the two ways is possible. -/
theorem isVersion_iff {field : List Char} :
    isVersion field = true ↔ ' ' ∉ field ∧ ∃ digit rest, Text.isDigit digit = true ∧
      (field = digit :: rest ∨ field = 'v' :: digit :: rest) := by
  have hdigit : Text.isDigit 'v' = false := by decide
  unfold isVersion
  rw [Bool.and_eq_true, isPlain_iff]
  refine and_congr_right fun _ => ?_
  split
  · next c rest _ =>
    constructor
    · intro hc
      exact ⟨c, rest, hc, Or.inr rfl⟩
    · rintro ⟨digit, rest', hd, heq | heq⟩
      · cases heq
        rw [hdigit] at hd
        cases hd
      · cases heq
        exact hd
  · next c rest hv _ =>
    constructor
    · intro hc
      exact ⟨c, rest, hc, Or.inl rfl⟩
    · rintro ⟨digit, rest', hd, heq | heq⟩
      · cases heq
        exact hd
      · cases heq
        exact (hv digit rest' rfl rfl).elim
  · simp

/-- What is asked of the field at an index is asked of the field that stands there. -/
theorem any_getElem?_eq {fields : List (List Char)} {index : Nat} (h : index < fields.length)
    (p : List Char → Bool) : fields[index]?.any p = p (fields.getD index []) := by
  simp [List.getD_eq_getElem?_getD, List.getElem?_eq_getElem h]

/-- A version is found at an index exactly if the fields can be read with the version there. -/
theorem versionAt_iff {fields : List (List Char)} {index : Nat}
    (place : index = 2 ∨ index = 3 ∨ index = 4) :
    versionAt fields index = true ↔ Reading fields index := by
  unfold versionAt
  simp only [Bool.and_eq_true, Bool.or_eq_true, beq_iff_eq, decide_eq_true_eq]
  constructor
  · rintro ⟨⟨hlast, ⟨hversion, hgroup⟩, hartifact⟩, htype, hclassifier⟩
    rw [any_getElem?_eq (by omega)] at hversion hgroup hartifact
    refine ⟨place, hlast, isFilled_iff.1 hgroup, isFilled_iff.1 hartifact, fun h => ?_, fun h => ?_,
      isVersion_iff.1 hversion⟩
    · rw [any_getElem?_eq (by omega)] at htype
      exact isPlain_iff.1 (htype.resolve_left (by omega))
    · rw [any_getElem?_eq (by omega)] at hclassifier
      exact isFilled_iff.1 (hclassifier.resolve_left (by omega))
  · intro h
    have hlast := h.last
    refine ⟨⟨hlast, ⟨?_, ?_⟩, ?_⟩, ?_, ?_⟩
    · rw [any_getElem?_eq (by omega)]
      exact isVersion_iff.2 h.version
    · rw [any_getElem?_eq (by omega)]
      exact isFilled_iff.2 h.group
    · rw [any_getElem?_eq (by omega)]
      exact isFilled_iff.2 h.artifact
    · by_cases h3 : 3 ≤ index
      · rw [any_getElem?_eq (by omega)]
        exact Or.inr (isPlain_iff.2 (h.type h3))
      · exact Or.inl (by omega)
    · by_cases h4 : index = 4
      · rw [any_getElem?_eq (by omega)]
        exact Or.inr (isFilled_iff.2 (h.classifier h4))
      · exact Or.inl (by omega)

/-- The indices are tried from the greatest one down. -/
theorem isGreatest_of_versionIndex? {fields : List (List Char)} {index : Nat}
    (h : versionIndex? fields = some index) : IsGreatest {i | Reading fields i} index := by
  obtain ⟨hat, before, after, htried, hnone⟩ := List.find?_eq_some_iff_append.1 h
  have hdown : (before ++ index :: after).Pairwise (· > ·) := htried ▸ by decide
  have hmem : index ∈ [4, 3, 2] := List.mem_of_find?_eq_some h
  refine ⟨(versionAt_iff (by simp at hmem; omega)).1 hat, fun other hother => ?_⟩
  have hother' : other ∈ before ++ index :: after := by
    rw [← htried]
    rcases hother.place with rfl | rfl | rfl <;> simp
  rw [List.pairwise_append, List.pairwise_cons] at hdown
  rcases List.mem_append.1 hother' with hbefore | hrest
  · have hnot := hnone other hbefore
    rw [(versionAt_iff hother.place).2 hother] at hnot
    cases hnot
  · rcases List.mem_cons.1 hrest with rfl | hafter
    · exact Nat.le_refl other
    · exact Nat.le_of_lt (hdown.2.1.1 other hafter)

/-- No version is found exactly if the fields cannot be read at all. -/
theorem versionIndex?_eq_none_iff {fields : List (List Char)} :
    versionIndex? fields = none ↔ ∀ i, ¬Reading fields i := by
  rw [versionIndex?, List.find?_eq_none]
  constructor
  · intro h i hi
    exact h i (by rcases hi.place with rfl | rfl | rfl <;> simp) ((versionAt_iff hi.place).2 hi)
  · intro h i hi hat
    exact h i ((versionAt_iff (by simp at hi; omega)).1 hat)

/-- The version is found at the greatest index at which the fields can be read. -/
theorem versionIndex?_eq_some_iff {fields : List (List Char)} {index : Nat} :
    versionIndex? fields = some index ↔ IsGreatest {i | Reading fields i} index := by
  refine ⟨isGreatest_of_versionIndex?, fun h => ?_⟩
  cases hindex : versionIndex? fields with
  | none => exact absurd h.1 (versionIndex?_eq_none_iff.1 hindex index)
  | some other =>
    have hother := isGreatest_of_versionIndex? hindex
    rw [Nat.le_antisymm (h.2 hother.1) (hother.2 h.1)]

/-! ## The reader -/

/-- The coordinates of a dependency, from its group, its artifact and its version. -/
def coordinatesOf (grp artifact version : List Char) : Coordinates :=
  if "p2.".toList <+: grp then
    .of "p2" "orbit" (some (String.ofList grp)) (String.ofList artifact) (String.ofList version)
  else
    .of "maven" "mavencentral" (some (String.ofList grp)) (String.ofList artifact)
      (String.ofList version)

/-- The coordinates of a dependency, from what the groups of the pattern captured. -/
def capturedCoordinates (captured : List (String × List Char)) : Coordinates :=
  let field (name : String) := (captured.lookup name).getD []
  coordinatesOf (field "group") (field "artifact") (field "version")

/-- The fields of a text: what stands between its colons, without white space around the text. -/
def fieldsOf (s : String) : List (List Char) := (Text.trimChars s.toList).splitOn ':'

/-- The coordinates in fields with the version at an index. -/
def coordinatesAt (fields : List (List Char)) (index : Nat) : Coordinates :=
  coordinatesOf (fields.getD 0 []) (fields.getD 1 []) (fields.getD index [])

/-- A text is read with the version where `versionIndex?` finds it. -/
theorem read_eq (s : String) :
    read s = (versionIndex? (fieldsOf s)).map (coordinatesAt (fieldsOf s)) := by
  unfold read fieldsOf
  simp only [String.toList_ofList, List.isPrefixOf_iff_prefix, bundlePrefix]
  cases versionIndex? ((Text.trimChars s.toList).splitOn ':') with
  | none => rfl
  | some index =>
    simp only [Option.map_some, coordinatesAt, coordinatesOf]
    split <;> rfl

/-- The fields in front of the version are the first ones. -/
theorem getD_take {fields : List (List Char)} {i index : Nat} (h : i < index) :
    (fields.take index).getD i [] = fields.getD i [] := by
  rw [List.getD_eq_getElem?_getD, List.getElem?_take_of_lt h, List.getD_eq_getElem?_getD]

/-- The first of the fields behind the others is the version. -/
theorem getD_drop_zero {fields : List (List Char)} {index : Nat} :
    (fields.drop index).getD 0 [] = fields.getD index [] := by
  rw [List.getD_eq_getElem?_getD, List.getElem?_drop, Nat.add_zero, List.getD_eq_getElem?_getD]

/-- The fields in front of the version can be read if each of them is filled or plain, as it has to
be. -/
theorem isSome_frontCaptures?_iff {front : List (List Char)} (two : 2 ≤ front.length)
    (four : front.length ≤ 4) :
    (frontCaptures? front).isSome = true ↔
      isFilled (front.getD 0 []) = true ∧ isFilled (front.getD 1 []) = true ∧
        (3 ≤ front.length → isPlain (front.getD 2 []) = true) ∧
          (4 ≤ front.length → isFilled (front.getD 3 []) = true) := by
  match front with
  | [grp, artifact] => simp [frontCaptures?]
  | [grp, artifact, type] => simp [frontCaptures?, and_assoc]
  | [grp, artifact, type, classifier] => simp [frontCaptures?, and_assoc]

/-- The fields from the version on can be read if there are at most two and the first is a version.
-/
theorem isSome_versionCaptures?_iff {rest : List (List Char)} :
    (versionCaptures? rest).isSome = true ↔
      (1 = rest.length ∨ 2 = rest.length) ∧ isVersion (rest.getD 0 []) = true := by
  match rest with
  | [] => simp [versionCaptures?]
  | [version] => simp [versionCaptures?, scopeCaptures?]
  | [version, scope] => simp [versionCaptures?, scopeCaptures?]
  | _ :: _ :: _ :: _ => simp [versionCaptures?, scopeCaptures?]

/-- The two halves of the fields can be read exactly if the whole can be. -/
theorem isSome_capturesAt?_iff {fields : List (List Char)} {index : Nat}
    (place : index = 2 ∨ index = 3 ∨ index = 4) :
    (capturesAt? fields index).isSome = true ↔ Reading fields index := by
  have hparts : (capturesAt? fields index).isSome = true ↔
      (frontCaptures? (fields.take index)).isSome = true ∧
        (versionCaptures? (fields.drop index)).isSome = true := by
    unfold capturesAt?
    cases frontCaptures? (fields.take index) <;> simp
  have hlast : (1 = (fields.drop index).length ∨ 2 = (fields.drop index).length) ↔
      (index + 1 = fields.length ∨ index + 2 = fields.length) := by
    rw [List.length_drop]
    omega
  have hfront (hlast : index + 1 = fields.length ∨ index + 2 = fields.length) :
      (fields.take index).length = index := by
    rw [List.length_take]
    omega
  rw [hparts, isSome_versionCaptures?_iff, hlast, getD_drop_zero, isVersion_iff]
  constructor
  · rintro ⟨hfilled, hlast, hversion⟩
    have hlength := hfront hlast
    rw [isSome_frontCaptures?_iff (by omega) (by omega), hlength, getD_take (by omega),
      getD_take (by omega), isFilled_iff, isFilled_iff] at hfilled
    obtain ⟨hgroup, hartifact, htype, hclassifier⟩ := hfilled
    refine ⟨place, hlast, hgroup, hartifact, fun h => ?_, fun h => ?_, hversion⟩
    · exact isPlain_iff.1 (getD_take (by omega : 2 < index) ▸ htype h)
    · exact isFilled_iff.1 (getD_take (by omega : 3 < index) ▸ hclassifier (by omega))
  · intro h
    have hlast := h.last
    have hlength := hfront hlast
    refine ⟨?_, hlast, h.version⟩
    rw [isSome_frontCaptures?_iff (by omega) (by omega), hlength, getD_take (by omega),
      getD_take (by omega), isFilled_iff, isFilled_iff]
    refine ⟨h.group, h.artifact, fun h3 => ?_, fun h4 => ?_⟩
    · rw [getD_take (by omega)]
      exact isPlain_iff.2 (h.type h3)
    · rw [getD_take (by omega)]
      exact isFilled_iff.2 (h.classifier (by omega))

/-- The fields in front of the version give the group and the artifact. -/
theorem lookup_of_frontCaptures? {front : List (List Char)} {captured : List (String × List Char)}
    (h : frontCaptures? front = some captured) :
    captured.lookup "group" = some (front.getD 0 []) ∧
      captured.lookup "artifact" = some (front.getD 1 []) ∧ captured.lookup "version" = none := by
  unfold frontCaptures? at h
  split at h
  case h_4 => cases h
  all_goals
    simp only [Option.ite_none_right_eq_some, Option.some.injEq] at h
    rw [← h.2]
    simp [List.lookup]

/-- The fields from the version on give the version. -/
theorem lookup_of_versionCaptures? {rest : List (List Char)} {captured : List (String × List Char)}
    (h : versionCaptures? rest = some captured) :
    captured.lookup "version" = some (rest.getD 0 []) := by
  cases rest with
  | nil => cases h
  | cons version rest =>
    rw [versionCaptures?, Option.ite_none_right_eq_some, Option.map_eq_some_iff] at h
    obtain ⟨-, scope, -, rfl⟩ := h
    rfl

/-- The groups `group`, `artifact` and `version` hold the fields 0, 1 and `index`. -/
theorem capturedCoordinates_of_capturesAt? {fields : List (List Char)} {index : Nat}
    (two : 2 ≤ index) {captured : List (String × List Char)}
    (h : capturesAt? fields index = some captured) :
    capturedCoordinates captured = coordinatesAt fields index := by
  obtain ⟨front, hfront, hrest⟩ := Option.bind_eq_some_iff.1 h
  obtain ⟨back, hback, rfl⟩ := Option.map_eq_some_iff.1 hrest
  obtain ⟨hgroup, hartifact, hnone⟩ := lookup_of_frontCaptures? hfront
  have hversion := lookup_of_versionCaptures? hback
  rw [getD_take (by omega)] at hgroup hartifact
  rw [getD_drop_zero] at hversion
  simp [capturedCoordinates, coordinatesAt, List.lookup_append, hgroup, hartifact, hnone, hversion]

/-- Reading a line is matching the pattern. -/
theorem read_eq_captures? (s : String) :
    read s = (pattern.captures? (Text.trimChars s.toList)).map capturedCoordinates := by
  let fields := fieldsOf s
  have hat (i : Nat) (place : i = 2 ∨ i = 3 ∨ i = 4) :
      versionAt fields i = (capturesAt? fields i).isSome :=
    Bool.eq_iff_iff.2 ((versionAt_iff place).trans (isSome_capturesAt?_iff place).symm)
  have hcoordinates (i : Nat) (two : 2 ≤ i) :
      (capturesAt? fields i).map capturedCoordinates =
        (capturesAt? fields i).map fun _ => coordinatesAt fields i :=
    Option.map_congr fun _ h => capturedCoordinates_of_capturesAt? two h
  rw [read_eq, captures?_pattern, versionIndex?]
  show _ = ((capturesAt? fields 4).or ((capturesAt? fields 3).or (capturesAt? fields 2))).map _
  rw [Option.map_or, Option.map_or, hcoordinates 4 (by omega), hcoordinates 3 (by omega),
    hcoordinates 2 (by omega)]
  simp only [List.find?_cons, List.find?_nil]
  show Option.map _ (match versionAt fields 4 with | _ => _) = _
  rw [hat 4 (by omega), hat 3 (by omega), hat 2 (by omega)]
  cases capturesAt? fields 4 <;> cases capturesAt? fields 3 <;> cases capturesAt? fields 2 <;> rfl

/-- A line is a dependency if some field can be the version. The rightmost such field is the
version, as in the first way to match the pattern. Apart from where the version stands, the type,
the classifier and the scope play no part. -/
theorem read_rightmost_version (s : String) :
    ((read s).isSome = true ↔ ∃ i, Reading (fieldsOf s) i) ∧
      (∀ i, IsGreatest {i | Reading (fieldsOf s) i} i →
        read s = some (coordinatesAt (fieldsOf s) i)) ∧
      read s = (pattern.captures? (Text.trimChars s.toList)).map capturedCoordinates ∧
      ∀ (t : String) (i j : Nat), IsGreatest {i | Reading (fieldsOf s) i} i →
        IsGreatest {j | Reading (fieldsOf t) j} j →
        (fieldsOf s).getD 0 [] = (fieldsOf t).getD 0 [] →
        (fieldsOf s).getD 1 [] = (fieldsOf t).getD 1 [] →
        (fieldsOf s).getD i [] = (fieldsOf t).getD j [] → read s = read t := by
  have hgreatest (s : String) (i : Nat) (h : IsGreatest {i | Reading (fieldsOf s) i} i) :
      read s = some (coordinatesAt (fieldsOf s) i) := by
    rw [read_eq, versionIndex?_eq_some_iff.2 h]
    rfl
  refine ⟨?_, hgreatest s, read_eq_captures? s, ?_⟩
  · rw [read_eq, Option.isSome_map, Option.isSome_iff_ne_none, Ne, versionIndex?_eq_none_iff]
    push Not
    rfl
  · intro t i j hi hj hgroup hartifact hversion
    rw [hgreatest s i hi, hgreatest t j hj, coordinatesAt, coordinatesAt, hgroup, hartifact,
      hversion]

/-- Two fields of the first line can be the version. In the second one the last field holds a
space. -/
theorem read_rightmost_version_of_three_lines :
    Reading (fieldsOf "a:b:1:2:v3") 3 ∧
      read "a:b:1:2:v3" = some ⟨"maven", "mavencentral", some "a", "b", "v3"⟩ ∧
      read " p2.a:b:jar:1.1.6:1.7 x\n" = some ⟨"p2", "orbit", some "p2.a", "b", "1.1.6"⟩ ∧
      read "a:b:1:2:v3" = read "a:b:v3:test" := by
  have hfirst : IsGreatest {i | Reading (fieldsOf "a:b:1:2:v3") i} 4 :=
    versionIndex?_eq_some_iff.1 (by decide +kernel)
  have hsecond : IsGreatest {i | Reading (fieldsOf " p2.a:b:jar:1.1.6:1.7 x\n") i} 3 :=
    versionIndex?_eq_some_iff.1 (by decide +kernel)
  have hthird : IsGreatest {i | Reading (fieldsOf "a:b:v3:test") i} 2 :=
    versionIndex?_eq_some_iff.1 (by decide +kernel)
  refine ⟨(versionAt_iff (by omega)).1 (by decide +kernel), ?_, ?_, ?_⟩
  · rw [(read_rightmost_version "a:b:1:2:v3").2.1 4 hfirst]
    decide +kernel
  · rw [(read_rightmost_version " p2.a:b:jar:1.1.6:1.7 x\n").2.1 3 hsecond]
    decide +kernel
  · exact (read_rightmost_version "a:b:1:2:v3").2.2.2 "a:b:v3:test" 4 2 hfirst hthird
      (by decide +kernel) (by decide +kernel) (by decide +kernel)

end Clearance.Maven
