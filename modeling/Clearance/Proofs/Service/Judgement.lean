import Clearance.Proofs.License.Approval
import Clearance.Service.ClearlyDefined
import Mathlib.Data.List.Forall2

/-!
# Verdicts on definitions

What a policy, a list of accepted licenses with a threshold, makes of the definitions of
ClearlyDefined. A definition is accepted (`ClearlyDefined.Accepts`) if the better of its two scores
reaches the threshold and the list satisfies the license that it declares and those that were
discovered in its files. Which licenses these are is told by the paths on which their texts stand
(`ClearlyDefined.Declares`, `ClearlyDefined.Discovers`). The scores are natural numbers of any size
here. The service cuts them at the greatest score, but no threshold goes beyond that.

A list that includes another one and a lower threshold lose no approval, and change nothing else
about the observations.
-/

set_option autoImplicit false

namespace Clearance.ClearlyDefined

open License (Lists Includes)

/-! ## Scores -/

/-- The natural number that is written at a path of a definition as an integer, or else zero. -/
def writtenScore (definition : Json.Value) (path : List String) : Nat :=
  match definition.at? path with
  | some (.number (.integer n)) => n.toNat
  | _ => 0

/-- The better of the two scores. -/
def bestScore (definition : Json.Value) : Nat :=
  max (writtenScore definition ["licensed", "score", "total"])
    (writtenScore definition ["scores", "effective"])

/-- A score is the number itself, up to the greatest score. -/
theorem toNat_scoreOfNatural (n : Nat) :
    (Foundation.scoreOfNatural n).toNat = min n (UInt32.size - 1) := by
  have hbound : min n Foundation.greatestScore < UInt32.size :=
    Nat.lt_of_le_of_lt (Nat.min_le_right n _) (by decide)
  rw [Foundation.scoreOfNatural, UInt32.toNat_ofNat_of_lt' hbound]
  rfl

/-- The score that the service goes by is cut at the greatest one. -/
theorem toNat_scoreAt (definition : Json.Value) (path : List String) :
    (scoreAt definition path).toNat = min (writtenScore definition path) (UInt32.size - 1) := by
  unfold scoreAt writtenScore
  cases definition.at? path with
  | none => rfl
  | some value =>
    cases value with
    | number number =>
      cases number with
      | integer n =>
        by_cases hn : 0 ≤ n
        · simp [Json.Value.natural?, hn, toNat_scoreOfNatural]
        · have hzero : n.toNat = 0 := Int.toNat_eq_zero.2 (by omega)
          simp [Json.Value.natural?, hn, hzero]
      | real negative magnitude => rfl
    | null => rfl
    | bool b => rfl
    | string s => rfl
    | array items => rfl
    | object fields => rfl

/-- No threshold goes beyond the greatest score. -/
theorem le_toNat_scoreAt_iff (threshold : UInt32) (definition : Json.Value) (path : List String) :
    threshold.toNat ≤ (scoreAt definition path).toNat ↔
      threshold.toNat ≤ writtenScore definition path := by
  have hthreshold := threshold.toNat_lt_size
  rw [toNat_scoreAt]
  omega

/-! ## Licenses -/

/-- The definition declares a license with this text. -/
def Declares (definition : Json.Value) (text : String) : Prop :=
  definition.at? ["licensed", "declared"] = some (.string text)

/-- A license with this text was discovered in the files of the component. -/
def Discovers (definition : Json.Value) (text : String) : Prop :=
  ∃ items, definition.at? ["licensed", "facets", "core", "discovered", "expressions"] =
      some (.array items) ∧
    .string text ∈ items

/-- A text is read from a string and from nothing else. -/
theorem string?_eq_some_iff {value : Json.Value} {text : String} :
    value.string? = some text ↔ value = .string text := by
  cases value <;> simp [Json.Value.string?]

/-- Where no license is declared, the text that stands for it is no expression. -/
theorem satisfied_declared_iff {accepts : String → Prop} {definition : Json.Value} :
    (License.parse (declared definition)).Satisfied accepts ↔
      ∃ text, Declares definition text ∧ (License.parse text).Satisfied accepts := by
  unfold declared Declares
  cases hat : (definition.at? ["licensed", "declared"]).bind (·.string?) with
  | some declaration =>
    obtain ⟨value, hvalue, htext⟩ := Option.bind_eq_some_iff.1 hat
    rw [string?_eq_some_iff] at htext
    simp [hvalue, htext]
  | none =>
    refine iff_of_false ?_ ?_
    · have hempty : License.parse "" = .invalid := License.parse_of_isBlankText rfl
      rw [Option.getD_none, hempty]
      nofun
    · rintro ⟨text, hvalue, -⟩
      rw [hvalue] at hat
      cases hat

/-- The discovered licenses are the texts among the items of the array. -/
theorem mem_discovered_iff {definition : Json.Value} {text : String} :
    text ∈ discovered definition ↔ Discovers definition text := by
  unfold discovered Discovers
  rw [List.mem_filterMap]
  simp only [string?_eq_some_iff, exists_eq_right]
  cases hat : definition.at? ["licensed", "facets", "core", "discovered", "expressions"] with
  | none => simp
  | some value => cases value <;> simp [Json.Value.items?]

/-! ## Policies -/

/-- The service under a list of accepted licenses and a threshold. -/
def under (url : String) (entries : List String) (threshold : UInt32) : ClearlyDefined where
  url := url
  approved := .ofList entries
  threshold := threshold.toNat

/-- A definition that a policy accepts. -/
structure Accepts (entries : List String) (threshold : UInt32) (definition : Json.Value) :
    Prop where
  confident : threshold.toNat ≤ bestScore definition
  declared : ∃ text, Declares definition text ∧ (License.parse text).Satisfied (Lists entries)
  discovered : ∀ text, Discovers definition text → text ≠ "NONE" →
    (License.parse text).Satisfied (Lists entries)

variable {url : String} {P Q : List String} {t u : UInt32} {definition : Json.Value}

/-- A definition is scored high enough exactly if its best score reaches the threshold. -/
theorem isConfident_iff :
    (under url P t).isConfident definition = true ↔ t.toNat ≤ bestScore definition := by
  simp only [isConfident, under, Bool.or_eq_true, decide_eq_true_eq, effectiveScore, licenseScore,
    le_toNat_scoreAt_iff, bestScore]
  omega

/-- A definition is approved exactly if it is accepted. -/
theorem judge_eq_approved_iff :
    (under url P t).judge definition = .approved ↔ Accepts P t definition := by
  have hall : (declared definition :: (discovered definition).filter (· != nothingFound)).all
      ((under url P t).approved.judgeText · == .approved) = true ↔
        (∃ text, Declares definition text ∧ (License.parse text).Satisfied (Lists P)) ∧
          ∀ text, Discovers definition text → text ≠ "NONE" →
            (License.parse text).Satisfied (Lists P) := by
    simp [under, License.ApprovedSet.judgeText_ofList_iff, satisfied_declared_iff,
      mem_discovered_iff, nothingFound, Classical.or_iff_not_imp_left]
  rw [judge]
  split
  · next h =>
    rw [Bool.and_eq_true, isConfident_iff, hall] at h
    exact iff_of_true rfl ⟨h.1, h.2.1, h.2.2⟩
  · next h =>
    rw [Bool.and_eq_true, isConfident_iff, hall] at h
    refine iff_of_false nofun fun accepted => h ?_
    exact ⟨accepted.confident, accepted.declared, accepted.discovered⟩

/-- A looser policy accepts no less. -/
theorem Accepts.mono (names : Includes Q P) (lower : u ≤ t) (h : Accepts P t definition) :
    Accepts Q u definition where
  confident := Nat.le_trans (UInt32.le_iff_toNat_le.1 lower) h.confident
  declared := h.declared.imp fun _ declares =>
    ⟨declares.1, declares.2.mono fun _ => Lists.mono names⟩
  discovered text htext hfound := (h.discovered text htext hfound).mono fun _ => Lists.mono names

/-- Neither a better score nor fewer discovered licenses lose the acceptance. -/
theorem Accepts.of_better {better : Json.Value}
    (same : ∀ text, Declares definition text → Declares better text)
    (score : bestScore definition ≤ bestScore better)
    (fewer : ∀ text, Discovers better text → Discovers definition text)
    (h : Accepts P t definition) : Accepts P t better where
  confident := Nat.le_trans h.confident score
  declared := h.declared.imp fun text declares => ⟨same text declares.1, declares.2⟩
  discovered text htext := h.discovered text (fewer text htext)

/-! ## Replies -/

/-- The observations differ in nothing but the verdict, which stays approved where it is. -/
def NoWorse (o o' : Observation) : Prop :=
  o' = { o with verdict := o'.verdict } ∧ (o.verdict = .approved → o'.verdict = .approved)

/-- More licenses and a lower threshold judge no definition worse. -/
theorem noWorse_observation {url' : String} (names : Includes Q P) (lower : u ≤ t)
    (id : ComponentId) :
    NoWorse ((under url P t).observation id definition)
      ((under url' Q u).observation id definition) := by
  refine ⟨rfl, fun h => ?_⟩
  exact judge_eq_approved_iff.2 ((judge_eq_approved_iff.1 h).mono names lower)

/-- The definitions in the fields of a reply, without those under names that are no ids. -/
def definitions (fields : List (String × Json.Value)) : List (ComponentId × Json.Value) :=
  fields.filterMap fun field => (ComponentId.ofCanonical? field.1).map fun id => (id, field.2)

/-- A reply is observed definition by definition. -/
theorem filterMap_observation? (service : ClearlyDefined) (fields : List (String × Json.Value)) :
    fields.filterMap service.observation? =
      (definitions fields).map fun named => service.observation named.1 named.2 := by
  simp only [definitions, List.map_filterMap, Option.map_map]
  rfl

/-- The policy decides about no failure. -/
theorem noWorse_answer {url' : String} (names : Includes Q P) (lower : u ≤ t) (count : Nat)
    (reply : Reply) :
    ((under url P t).answer count reply).failure? =
        ((under url' Q u).answer count reply).failure? ∧
      List.Forall₂ NoWorse ((under url P t).answer count reply).found
        ((under url' Q u).answer count reply).found := by
  unfold answer
  cases reply with
  | failed => exact ⟨rfl, .nil⟩
  | answered status body =>
    dsimp only
    split
    · exact ⟨rfl, .nil⟩
    · split
      · exact ⟨rfl, .nil⟩
      · next fields _ =>
        refine ⟨rfl, ?_⟩
        dsimp only
        rw [filterMap_observation?, filterMap_observation?, List.forall₂_map_left_iff,
          List.forall₂_map_right_iff, List.forall₂_same]
        exact fun named _ => noWorse_observation names lower named.1
      · exact ⟨rfl, .nil⟩

/-- A looser policy finds the same in every reply, and approves whatever was approved. Under one
policy, the verdicts on a reply are those on its definitions, and they get no worse with better
scores or with fewer discovered licenses. -/
theorem answer_looser (url url' : String) (names : Includes Q P) (lower : u ≤ t) :
    (∀ count reply,
      ((under url P t).answer count reply).failure? =
          ((under url' Q u).answer count reply).failure? ∧
        List.Forall₂ NoWorse ((under url P t).answer count reply).found
          ((under url' Q u).answer count reply).found) ∧
    (∀ count status body fields, Transport.isSuccess status = true →
      Json.Value.read? (Transport.bodyText body) = some (.object fields) →
      List.Forall₂
        (fun named o => o.id = named.1 ∧ (o.verdict = .approved ↔ Accepts P t named.2))
        (definitions fields) ((under url P t).answer count (.answered status body)).found) ∧
    ∀ definition better, (∀ text, Declares definition text → Declares better text) →
      bestScore definition ≤ bestScore better →
      (∀ text, Discovers better text → Discovers definition text) →
      (under url P t).judge definition = .approved → (under url P t).judge better = .approved := by
  refine ⟨noWorse_answer names lower, ?_, ?_⟩
  · intro count status body fields success hbody
    have hfound : ((under url P t).answer count (.answered status body)).found =
        fields.filterMap (under url P t).observation? := by
      simp [answer, success, hbody]
    rw [hfound, filterMap_observation?, List.forall₂_map_right_iff, List.forall₂_same]
    exact fun named _ => ⟨rfl, judge_eq_approved_iff⟩
  · intro definition better same score fewer h
    exact judge_eq_approved_iff.2 ((judge_eq_approved_iff.1 h).of_better same score fewer)

/-- The second of three definitions is approved by the looser policy only, and the third by neither
since a license was discovered that no list has. An approved definition stays approved with one
score at the greatest integer and none for the whole, and without a second discovered license. -/
theorem answer_looser_of_three_definitions :
    let first := "\"npm/npmjs/-/a/1\":\x7b\"licensed\":\x7b\"declared\":\"(MIT)\"\x7d," ++
      "\"scores\":\x7b\"effective\":95\x7d\x7d"
    let second := "\"npm/npmjs/-/b/1\":\x7b\"licensed\":\x7b\"declared\":\"ISC AND MIT\"," ++
      "\"score\":\x7b\"total\":70\x7d\x7d\x7d"
    let third := "\"npm/npmjs/-/c/1\":\x7b\"licensed\":\x7b\"declared\":\"MIT\"," ++
      "\"score\":\x7b\"total\":99\x7d,\"facets\":\x7b\"core\":\x7b\"discovered\":" ++
      "\x7b\"expressions\":[\"MIT\",\"GPL-2.0\"]\x7d\x7d\x7d\x7d\x7d"
    let body := "\x7b" ++ second ++ "," ++ first ++ "," ++ third ++ ",\"b\":1\x7d"
    let definition (discovered : List String) (total : Int) (scores : Json.Value) : Json.Value :=
      .object [("licensed", .object [("declared", .string "MIT"),
        ("facets", .object [("core", .object [("discovered", .object
          [("expressions", .array (discovered.map .string))])])]),
        ("score", .object [("total", .number (.integer total))])]), ("scores", scores)]
    let old := definition ["MIT", "NONE", "MIT OR X"] (-1)
      (.object [("effective", .number (.integer 90))])
    let new := definition ["MIT"] 18446744073709551615 .null
    let spoilt := definition ["MIT", "X"] 18446744073709551615 .null
    let strict := under publicUrl [" MIT ", " "] 90
    let loose := under publicUrl ["ISC", "MIT"] 60
    Includes ["ISC", "MIT"] [" MIT ", " "] ∧
      List.Forall₂ NoWorse (strict.answer 3 (.answered 200 body)).found
        (loose.answer 3 (.answered 200 body)).found ∧
      (strict.answer 3 (.answered 200 body)).found.map (·.verdict) =
        [.approved, .restricted, .restricted] ∧
      (loose.answer 3 (.answered 200 body)).found.map (·.verdict) =
        [.approved, .approved, .restricted] ∧
      (∃ fields, Json.Value.read? (Transport.bodyText body) = some (.object fields) ∧
        fields.length = 4 ∧
        List.Forall₂
          (fun named o => o.id = named.1 ∧
            (o.verdict = .approved ↔ Accepts [" MIT ", " "] 90 named.2))
          (definitions fields) (strict.answer 3 (.answered 200 body)).found) ∧
      strict.judge old = .approved ∧ strict.judge new = .approved ∧
      Discovers spoilt "X" ∧ strict.judge spoilt = .restricted := by
  intro first second third body definition old new spoilt strict loose
  have names : Includes ["ISC", "MIT"] [" MIT ", " "] := by
    have htrim : Text.trim " MIT " = "MIT" ∧ Text.trim " " = "" ∧ Text.trim "MIT" = "MIT" := by
      decide +kernel
    simp [Includes, htrim]
  obtain ⟨hsame, hverdicts, hbetter⟩ :=
    answer_looser publicUrl publicUrl names (by decide : (60 : UInt32) ≤ 90)
  have hnoworse := (hsame 3 (.answered 200 body)).2
  have hrun : ((Json.Value.read? (Transport.bodyText body)).bind Json.Value.fields?).map
        List.length = some 4 ∧
      (strict.answer 3 (.answered 200 body)).found.map (·.verdict) =
        [.approved, .restricted, .restricted] ∧
      (loose.answer 3 (.answered 200 body)).found.map (·.verdict) =
        [.approved, .approved, .restricted] := by
    decide +kernel
  obtain ⟨hread, hstrict, hloose⟩ := hrun
  obtain ⟨fields, hfields, hlength⟩ := Option.map_eq_some_iff.1 hread
  obtain ⟨value, hvalue, hfields⟩ := Option.bind_eq_some_iff.1 hfields
  obtain rfl : value = .object fields := by
    cases value with
    | object others => rw [Option.some.inj hfields]
    | _ => cases hfields
  have hdeclares (discovered : List String) (total : Int) (scores : Json.Value) (text : String) :
      Declares (definition discovered total scores) text ↔ "MIT" = text := by
    simp [Declares, definition, Json.Value.at?, Json.Value.field?, Json.Value.fields?]
  have hdiscovers (discovered : List String) (total : Int) (scores : Json.Value) (text : String) :
      Discovers (definition discovered total scores) text ↔ text ∈ discovered := by
    simp [Discovers, definition, Json.Value.at?, Json.Value.field?, Json.Value.fields?,
      List.lookup_cons]
  have hold : strict.judge old = .approved := by decide +kernel
  have hnew : strict.judge new = .approved := by
    refine hbetter old new (fun text h => ?_) (by decide +kernel) (fun text h => ?_) hold
    · exact (hdeclares _ _ _ text).2 ((hdeclares _ _ _ text).1 h)
    · obtain rfl := List.mem_singleton.1 ((hdiscovers _ _ _ text).1 h)
      exact (hdiscovers _ _ _ "MIT").2 (by simp)
  exact ⟨names, hnoworse, hstrict, hloose,
    ⟨fields, hvalue, hlength, hverdicts 3 200 body fields (by decide) hvalue⟩, hold, hnew,
    (hdiscovers _ _ _ "X").2 (by simp), by decide +kernel⟩

end Clearance.ClearlyDefined
