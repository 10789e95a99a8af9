import Clearance.Proofs.Entry
import Clearance.Proofs.Json.Digits
import Clearance.Proofs.Json.Paths
import Clearance.Proofs.License.Spelling
import Clearance.Proofs.Service.Judgement
import Clearance.Proofs.Text.Pieces

/-!
# The two forms of a confidence

A record of the foundation gives its confidence as a JSON number or as a text with the digits of the
number. The number is cut at the greatest score as long as it fits in 64 bits, the text counts only
up to the greatest score. So the two forms agree but for the numbers in between
(`scores_agree_iff`), for which the number stands for the greatest score and the text for the least.

A record that is written in the other form is still the same record but for its score, and no other
record is touched (`observation?_worded`, `exists_records_change`).
-/

set_option autoImplicit false

namespace Clearance.Foundation

open Binary64

/-! ## Scores -/

/-- The score of a confidence that is the number `n`. -/
def scoreOfNumber (n : ℕ) : UInt32 := if n < 2 ^ 64 then scoreOfNatural n else 0

/-- The score of a confidence that is a text with the digits of `n`. -/
def scoreOfText (n : ℕ) : UInt32 := if n < 2 ^ 32 then scoreOfNatural n else 0

/-- A number and the text with its digits score alike below the clamp and beyond the range of
numbers. -/
theorem scores_agree_iff {n : ℕ} :
    scoreOfText n = scoreOfNumber n ↔ n < 2 ^ 32 ∨ 2 ^ 64 ≤ n := by
  unfold scoreOfText scoreOfNumber
  by_cases hsmall : n < 2 ^ 32
  · rw [if_pos hsmall, if_pos (by omega)]
    exact iff_of_true rfl (Or.inl hsmall)
  · rw [if_neg hsmall]
    by_cases hfits : n < 2 ^ 64
    · rw [if_pos hfits]
      refine iff_of_false ?_ (by omega)
      intro hzero
      have hscore := ClearlyDefined.toNat_scoreOfNatural n
      rw [← hzero] at hscore
      have hsize : UInt32.size = 2 ^ 32 := rfl
      have hnone : (0 : UInt32).toNat = 0 := rfl
      omega
    · rw [if_neg hfits]
      exact iff_of_true rfl (Or.inr (not_lt.1 hfits))

/-- A number that is refused scores nothing. -/
theorem score_of_ite (p : Prop) [Decidable p] (n : ℕ) :
    ((if p then some n else none).map scoreOfNatural).getD 0 =
      if p then scoreOfNatural n else 0 := by
  by_cases h : p
  · rw [if_pos h, if_pos h]
    rfl
  · rw [if_neg h, if_neg h]
    rfl

/-- A confidence that is a number has the score of a number. -/
theorem confidence_of_number {n : ℕ} {record v : Json.Value}
    (hread : Json.Value.read? (String.ofList (digitsOf n)) = some v)
    (given : record.field? "confidence" = some v) : confidence record = scoreOfNumber n := by
  obtain ⟨x, rfl, hnatural⟩ := Json.Value.exists_number_of_digitsOf hread
  rw [confidence, given]
  dsimp only
  rw [hnatural]
  exact score_of_ite (n < 2 ^ 64) n

/-- A confidence that is a text has the score of a text, whatever white space is around the digits.
-/
theorem confidence_of_text {n : ℕ} {record : Json.Value} {before after : List Char}
    (blank : ∀ c ∈ before ++ after, Text.isBlank c = true)
    (given : record.field? "confidence" =
      some (.string (String.ofList (before ++ digitsOf n ++ after)))) :
    confidence record = scoreOfText n := by
  have hfree : ∀ c ∈ digitsOf n, Text.isBlank c = false := by
    intro c hc
    apply License.Token.isBlank_of_isAlphanum
    rw [Char.isAlphanum, isDigit_of_mem_digitsOf hc, Bool.or_true]
  rw [confidence, given]
  dsimp only
  rw [String.toList_ofList, Text.trimChars_blank_append blank, Text.trimChars_of_free hfree,
    Text.readBelow?_digitsOf]
  exact score_of_ite (n < 2 ^ 32) n

/-! ## Records -/

/-- Only the score of an observation comes from the confidence. -/
theorem observation?_of_other_fields {record changed : Json.Value}
    (same : ∀ name, name ≠ "confidence" → changed.field? name = record.field? name) :
    observation? changed =
      (observation? record).map ({ · with score := confidence changed }) := by
  have htext : ∀ name, name ≠ "confidence" → textOf changed name = textOf record name := by
    intro name hname
    rw [textOf, same name hname, textOf]
  unfold observation?
  rw [same "id" (by decide), htext "authority" (by decide), htext "license" (by decide),
    htext "status" (by decide)]
  cases (record.field? "id").bind fun id => id.string?.bind ComponentId.ofCanonical? with
  | none => simp
  | some id => simp

/-- A record with a number for its confidence is observed with the score of the number. -/
theorem observation?_of_number {n : ℕ} {record v : Json.Value}
    (hread : Json.Value.read? (String.ofList (digitsOf n)) = some v)
    (given : record.field? "confidence" = some v) :
    observation? record = (observation? record).map ({ · with score := scoreOfNumber n }) := by
  rw [← confidence_of_number hread given]
  exact observation?_of_other_fields fun _ _ => rfl

/-- The record with a text for its confidence. -/
def worded (text : List Char) : Json.Value → Json.Value :=
  Json.Value.changeAt (fun _ => .string (String.ofList text)) ["confidence"]

/-- A record with the text for its confidence is observed with the score of the text. -/
theorem observation?_worded {n : ℕ} {record v : Json.Value} {before after : List Char}
    (blank : ∀ c ∈ before ++ after, Text.isBlank c = true)
    (given : record.field? "confidence" = some v) :
    observation? (worded (before ++ digitsOf n ++ after) record) =
      (observation? record).map ({ · with score := scoreOfText n }) := by
  have htext : (worded (before ++ digitsOf n ++ after) record).field? "confidence" =
      some (.string (String.ofList (before ++ digitsOf n ++ after))) := by
    rw [worded, Json.Value.field?_changeAt, given]
    rfl
  rw [← confidence_of_text blank htext]
  exact observation?_of_other_fields fun name hname => Json.Value.field?_changeAt_of_ne hname [] _

/-- The records of a section. -/
def sectionRecords (reply : Json.Value) (listing : String) : List (String × Json.Value) :=
  (((reply.field? listing).bind (·.fields?)).getD []).map fun field => (listing, field.2)

/-- The records of a reply are those of its sections. -/
theorem records_eq (reply : Json.Value) : records reply = sections.flatMap (sectionRecords reply) :=
  rfl

/-- A change of one record leaves the others of its section as they are. -/
theorem exists_sectionRecords_change {reply record : Json.Value} {listing key : String}
    (given : reply.at? [listing, key] = some record) (f : Json.Value → Json.Value) :
    ∃ front back, sectionRecords reply listing = front ++ (listing, record) :: back ∧
      sectionRecords (reply.changeAt f [listing, key]) listing =
        front ++ (listing, f record) :: back := by
  obtain ⟨inner, hinner, hrecord⟩ := Option.bind_eq_some_iff.1 given
  obtain ⟨record, hfield, hrecord⟩ := Option.bind_eq_some_iff.1 hrecord
  cases hrecord
  cases inner with
  | object fields =>
    obtain ⟨front, back, hfields, hchange⟩ := Json.exists_changeField (f := f) hfield
    have hthis : sectionRecords reply listing = fields.map fun field => (listing, field.2) := by
      rw [sectionRecords, hinner]
      rfl
    have hchanged : sectionRecords (reply.changeAt f [listing, key]) listing =
        (Json.changeField key f fields).map fun field => (listing, field.2) := by
      rw [sectionRecords, Json.Value.field?_changeAt, hinner]
      rfl
    refine ⟨front.map fun field => (listing, field.2), back.map fun field => (listing, field.2),
      ?_, ?_⟩
    · rw [hthis, hfields, List.map_append, List.map_cons]
    · rw [hchanged, hchange, List.map_append, List.map_cons]
  | _ => cases hfield

/-- A change of one record leaves the others of the reply as they are. -/
theorem exists_records_change {reply record : Json.Value} {listing key : String}
    (listed : listing ∈ sections) (given : reply.at? [listing, key] = some record)
    (f : Json.Value → Json.Value) :
    ∃ front back, records reply = front ++ (listing, record) :: back ∧
      records (reply.changeAt f [listing, key]) = front ++ (listing, f record) :: back := by
  obtain ⟨before, after, hsections⟩ := List.append_of_mem listed
  have hnodup : (before ++ listing :: after).Nodup := hsections ▸ by decide
  have hother : ∀ other ∈ before ++ after,
      sectionRecords (reply.changeAt f [listing, key]) other = sectionRecords reply other := by
    intro other hmem
    have hne : other ≠ listing := by
      rintro rfl
      exact (List.nodup_middle.1 hnodup).notMem hmem
    rw [sectionRecords, Json.Value.field?_changeAt_of_ne hne, sectionRecords]
  rw [List.forall_mem_append] at hother
  obtain ⟨front, back, hthis, hchanged⟩ := exists_sectionRecords_change given f
  -- The other sections are read under other names, where nothing has changed.
  refine ⟨before.flatMap (sectionRecords reply) ++ front,
    back ++ after.flatMap (sectionRecords reply), ?_, ?_⟩
  · rw [records_eq, hsections, List.flatMap_append, List.flatMap_cons, hthis]
    simp
  · rw [records_eq, hsections, List.flatMap_append, List.flatMap_cons, hchanged,
      List.flatMap_congr hother.1, List.flatMap_congr hother.2]
    simp

/-! ## Observations -/

/-- A record that can be read gives one observation among those of the others. -/
theorem observations_of_records {reply record : Json.Value} {listing : String}
    {front back : List (String × Json.Value)}
    (h : records reply = front ++ (listing, record) :: back) :
    observations reply = front.filterMap (fun r => observation? r.2) ++
      (observation? record).toList ++ back.filterMap (fun r => observation? r.2) := by
  rw [observations, h, List.filterMap_append, List.filterMap_cons, List.append_assoc]
  cases observation? record with
  | none => rfl
  | some o => rfl

/-- A confidence that is the number `n` and one that is a text of it lead to observations that
differ in at most one score, and they differ exactly if `n` is beyond the greatest score but fits in
64 bits. What entries report depends on the form for the same numbers. -/
theorem observations_changed_form (n : ℕ) (before after : List Char) {number : Json.Value}
    (reply : Json.Value) (listing key : String)
    (hread : Json.Value.read? (String.ofList (digitsOf n)) = some number)
    (blank : ∀ c ∈ before ++ after, Text.isBlank c = true) (listed : listing ∈ sections)
    (given : reply.at? [listing, key, "confidence"] = some number) :
    let text := Json.Value.string (String.ofList (before ++ digitsOf n ++ after))
    let told := reply.changeAt (fun _ => text) [listing, key, "confidence"]
    ∃ record front back, reply.at? [listing, key] = some record ∧
      observations reply = front ++
        ((observation? record).map ({ · with score := scoreOfNumber n })).toList ++ back ∧
      observations told = front ++
        ((observation? record).map ({ · with score := scoreOfText n })).toList ++ back ∧
      (observations told = observations reply ↔
        n < 2 ^ 32 ∨ 2 ^ 64 ≤ n ∨ observation? record = none) ∧
      ∀ o, observation? record = some o →
        ((∀ e : Entry, (e.add { o with score := scoreOfText n }).leading? =
          (e.add { o with score := scoreOfNumber n }).leading?) ↔ n < 2 ^ 32 ∨ 2 ^ 64 ≤ n) := by
  intro text told
  have hcut : reply.at? ([listing, key] ++ ["confidence"]) = some number := given
  rw [Json.Value.at?_append] at hcut
  obtain ⟨record, hrecord, hconfidence⟩ := Option.bind_eq_some_iff.1 hcut
  obtain ⟨v, hnumber, hv⟩ := Option.bind_eq_some_iff.1 hconfidence
  cases hv
  -- A change of the confidence is a change of its record, and that of one record of the reply.
  have htold : told = reply.changeAt (worded (before ++ digitsOf n ++ after)) [listing, key] :=
    Json.Value.changeAt_append [listing, key] ["confidence"] reply
  obtain ⟨front, back, hrecords, hchanged⟩ := exists_records_change listed hrecord
    (worded (before ++ digitsOf n ++ after))
  have hnumbered := observations_of_records hrecords
  have hworded := observations_of_records hchanged
  rw [observation?_of_number hread hnumber] at hnumbered
  rw [← htold, observation?_worded blank hnumber] at hworded
  refine ⟨record, _, _, hrecord, hnumbered, hworded, ?_, ?_⟩
  · rw [hnumbered, hworded, List.append_left_inj, List.append_right_inj]
    cases observation? record with
    | none => simp
    | some o => simp [scores_agree_iff]
  · intro o _
    rw [← scores_agree_iff]
    constructor
    · intro h
      exact congrArg Observation.score (Entry.eq_of_forall_leading? h)
    · intro h e
      rw [h]

/-- The text of a confidence may be padded. -/
theorem observations_changed_form_of_padded_text :
    let record := fun confidence : Json.Value => Json.Value.object
      [("confidence", confidence), ("id", .string "npm/npmjs/-/x/1")]
    let reply := Json.Value.object
      [("restricted", .object [("x", record (.number (.integer 100)))])]
    let told := Json.Value.object [("restricted", .object [("x", record (.string " 100\n"))])]
    (observations reply).map (·.score) = [100] ∧ observations told = observations reply := by
  intro record reply told
  have hread : Json.Value.read? (String.ofList (digitsOf 100)) =
      some (.number (.integer 100)) := by
    cbv
  have hblank : ∀ c ∈ [' '] ++ ['\n'], Text.isBlank c = true := List.all_eq_true.1 (by decide)
  obtain ⟨_, _, _, -, -, -, hiff, -⟩ := observations_changed_form 100 [' '] ['\n'] reply
    "restricted" "x" hread hblank (by decide) rfl
  refine ⟨by decide +kernel, ?_⟩
  exact hiff.2 (Or.inl (by decide))

/-- Which license is reported depends on the form: as a number the first confidence is beyond the
second, as a text it counts for nothing. -/
theorem license?_of_two_pow_32_forms :
    let record := fun (license : String) (confidence : Json.Value) => Json.Value.object
      [("confidence", confidence), ("id", .string "npm/npmjs/-/x/1"), ("license", .string license),
        ("status", .string "approved")]
    let reply := fun confidence : Json.Value => Json.Value.object [("approved", .object
      [("a", record "MIT" confidence), ("b", record "EPL-2.0" (.string "50"))])]
    let number := Json.Value.number (.integer 4294967296)
    let text := Json.Value.string "4294967296"
    let entry : Entry := { id := .located ⟨"npm", "npmjs", none, "x", "1"⟩ }
    Json.Value.read? "4294967296" = some number ∧
      (observations (reply number)).map (·.score) = [4294967295, 50] ∧
      (observations (reply text)).map (·.score) = [0, 50] ∧
      (entry.addAll (observations (reply number))).license? = some "MIT" ∧
      (entry.addAll (observations (reply text))).license? = some "EPL-2.0" := by
  intro record reply number text entry
  refine ⟨?_, ?_, ?_, ?_, ?_⟩
  · cbv
  · decide +kernel
  · decide +kernel
  · decide +kernel
  · decide +kernel

end Clearance.Foundation
