import Clearance.Proofs.License.Approval
import Clearance.Proofs.License.Printing

/-!
# What a list of licenses can be seen by

A list of licenses comes into a verdict through the names in the expression alone: the expression is
approved as soon as the list holds what another list that approves it holds of them
(`Expr.Satisfied.of_names`). Only identifiers are names in an expression, so an entry that is none
approves nothing. On the other hand every identifier is an expression of its own, which tells two
lists apart that do not both hold it.
-/

set_option autoImplicit false

namespace Clearance.License

namespace Expr

/-- The names in an expression, from left to right. -/
def names : Expr → List String
  | license name => [name]
  | orLater name => [name]
  | both left right => left.names ++ right.names
  | either left right => left.names ++ right.names
  | invalid => []

/-- The names of the expression itself are all that counts. -/
theorem Satisfied.of_names {accepts others : String → Prop} {e : Expr}
    (more : ∀ name ∈ e.names, accepts name → others name) (h : e.Satisfied accepts) :
    e.Satisfied others := by
  induction h with
  | license h => exact .license (more _ (List.mem_singleton.2 rfl) h)
  | orLater h => exact .orLater (more _ (List.mem_singleton.2 rfl) h)
  | both _ _ ihl ihr =>
    have hmore := List.forall_mem_append.1 more
    exact .both (ihl hmore.1) (ihr hmore.2)
  | left _ ih => exact .left (ih (List.forall_mem_append.1 more).1)
  | right _ ih => exact .right (ih (List.forall_mem_append.1 more).2)

end Expr

/-! ## Identifiers -/

/-- The names that can stand in an expression. -/
def IsIdentifier (name : String) : Prop :=
  Token.IsWord name.toList ∧ ¬ Token.IsReserved name.toList

/-- The names of a legible expression are identifiers. -/
theorem isIdentifier_of_legible {e : Expr} (h : e.Legible) :
    ∀ name ∈ e.names, IsIdentifier name := by
  induction e with
  | license name => exact List.forall_mem_singleton.2 h
  | orLater name => exact List.forall_mem_singleton.2 h
  | both left right ihl ihr => exact List.forall_mem_append.2 ⟨ihl h.1, ihr h.2⟩
  | either left right ihl ihr => exact List.forall_mem_append.2 ⟨ihl h.1, ihr h.2⟩
  | invalid => exact h.elim

/-- The names in a text are identifiers. -/
theorem isIdentifier_of_mem_names {s name : String} (h : name ∈ (parse s).names) :
    IsIdentifier name := by
  by_cases hvalid : (parse s).isValid = true
  · exact isIdentifier_of_legible (legible_parse hvalid) name h
  · rw [Expr.eq_invalid hvalid] at h
    exact absurd h List.not_mem_nil

/-- Identifiers are the texts that are read as the license of that name. -/
theorem isIdentifier_iff {name : String} : IsIdentifier name ↔ parse name = .license name := by
  constructor
  · rintro ⟨word, free⟩
    let p : Derivation .alternative := .term (.factor (.name name))
    have hspelled : Token.Spelled name.toList p.tokens :=
      Token.spelled_of_prints (Token.prints_name word free)
    have hshort : p.tokens.length ≤ maxTokens := Nat.le_add_left 1 1023
    exact parse_eq_of_denotes ⟨hspelled, hshort, Nat.zero_le _⟩
  · intro h
    apply isIdentifier_of_mem_names (s := name)
    rw [h]
    exact List.mem_singleton.2 rfl

/-! ## Verdicts of lists -/

section lists

variable {P Q : List String} {s : String}

/-- A list that holds more of the names in a text approves it if the other one does. -/
theorem approved_of_names (more : ∀ name ∈ (parse s).names, Lists P name → Lists Q name)
    (h : (ApprovedSet.ofList P).judgeText s = .approved) :
    (ApprovedSet.ofList Q).judgeText s = .approved := by
  rw [ApprovedSet.judgeText_ofList_iff] at h ⊢
  exact h.of_names more

/-- Lists that hold the same names of a text judge it alike. -/
theorem judgeText_eq_of_names (same : ∀ name ∈ (parse s).names, Lists P name ↔ Lists Q name) :
    (ApprovedSet.ofList P).judgeText s = (ApprovedSet.ofList Q).judgeText s := by
  have hforth := approved_of_names fun name hname => (same name hname).1
  have hback := approved_of_names fun name hname => (same name hname).2
  cases hP : (ApprovedSet.ofList P).judgeText s with
  | approved => exact (hforth hP).symm
  | restricted =>
    cases hQ : (ApprovedSet.ofList Q).judgeText s with
    | approved => rw [← hP, hback hQ]
    | restricted => rfl

/-- An identifier is approved by the lists that hold it. -/
theorem judgeText_identifier {name : String} (h : IsIdentifier name) :
    (ApprovedSet.ofList P).judgeText name = .approved ↔ Lists P name := by
  rw [ApprovedSet.judgeText_ofList_iff, isIdentifier_iff.1 h]
  constructor
  · rintro (hlists | _)
    exact hlists
  · exact .license

/-- One more entry makes no difference to the names that it does not spell. -/
theorem lists_cons_iff {entry name : String} (h : Text.trim entry ≠ name) :
    Lists (entry :: P) name ↔ Lists P name := by
  simp [Lists, h]

end lists

/-- A list approves whatever another one approves, if it holds those of the names in the text that
the other one holds. So the verdict depends on these names alone, and a larger list revokes no
approval. Two lists judge all texts alike exactly if they hold the same identifiers, which are the
texts that are read as one license of that name. Entries that are none are without effect. -/
theorem judgeText_sees_identifiers :
    (∀ (P Q : List String) (s : String),
      (∀ name ∈ (parse s).names, Lists P name → Lists Q name) →
      (ApprovedSet.ofList P).judgeText s = .approved →
      (ApprovedSet.ofList Q).judgeText s = .approved) ∧
    (∀ (P Q : List String) (s : String),
      (∀ name ∈ (parse s).names, Lists P name ↔ Lists Q name) →
      (ApprovedSet.ofList P).judgeText s = (ApprovedSet.ofList Q).judgeText s) ∧
    (∀ P Q : List String, Includes Q P → ∀ s : String,
      (ApprovedSet.ofList P).judgeText s = .approved →
      (ApprovedSet.ofList Q).judgeText s = .approved) ∧
    (∀ P Q : List String,
      (∀ s : String, (ApprovedSet.ofList P).judgeText s = (ApprovedSet.ofList Q).judgeText s) ↔
        ∀ name, IsIdentifier name → (Lists P name ↔ Lists Q name)) ∧
    (∀ name : String, IsIdentifier name ↔ parse name = .license name) ∧
    ∀ (P : List String) (entry : String), ¬ IsIdentifier (Text.trim entry) → ∀ s : String,
      (ApprovedSet.ofList (entry :: P)).judgeText s = (ApprovedSet.ofList P).judgeText s := by
  refine ⟨fun P Q s => approved_of_names, fun P Q s => judgeText_eq_of_names, ?_, ?_,
    fun name => isIdentifier_iff, ?_⟩
  · intro P Q includes s
    exact approved_of_names fun name _ => Lists.mono includes
  · intro P Q
    constructor
    · intro hsame name hname
      rw [← judgeText_identifier hname, hsame name, judgeText_identifier hname]
    · intro hsame s
      apply judgeText_eq_of_names
      exact fun name hname => hsame name (isIdentifier_of_mem_names hname)
  · intro P entry hentry s
    apply judgeText_eq_of_names
    intro name hname
    apply lists_cons_iff
    rintro rfl
    exact hentry (isIdentifier_of_mem_names hname)

/-- Of four entries only the last one is an identifier, and any list with it approves as much. -/
theorem judgeText_sees_identifiers_of_dead_entries :
    (∀ s : String, (ApprovedSet.ofList ["GPL-2.0+", " WITH ", "BSD_3", "MIT"]).judgeText s =
      (ApprovedSet.ofList ["MIT"]).judgeText s) ∧
    (ApprovedSet.ofList ["MIT"]).judgeText "GPL-2.0+ OR MIT" = .approved ∧
    (ApprovedSet.ofList ["ISC", " MIT "]).judgeText "GPL-2.0+ OR MIT" = .approved := by
  obtain ⟨-, -, hmore, -, hidentifier, hdead⟩ := judgeText_sees_identifiers
  have htrim : Text.trim "MIT" = "MIT" ∧ Text.trim " MIT " = "MIT" := by decide +kernel
  have happroved : (ApprovedSet.ofList ["MIT"]).judgeText "GPL-2.0+ OR MIT" = .approved := by
    have hread : parse "GPL-2.0+ OR MIT" = .either (.orLater "GPL-2.0") (.license "MIT") := by cbv
    have hlists : Lists ["MIT"] "MIT" := ⟨by decide, "MIT", List.mem_cons_self, htrim.1⟩
    rw [ApprovedSet.judgeText_ofList_iff, hread]
    exact .right (.license hlists)
  have hlater : parse (Text.trim "GPL-2.0+") = .orLater "GPL-2.0" := by cbv
  have hreserved : parse (Text.trim " WITH ") = .invalid := by cbv
  have hscored : parse (Text.trim "BSD_3") = .invalid := by cbv
  refine ⟨fun s => ?_, ?_, ?_⟩
  · rw [hdead _ "GPL-2.0+" (by rw [hidentifier, hlater]; decide),
      hdead _ " WITH " (by rw [hidentifier, hreserved]; decide),
      hdead _ "BSD_3" (by rw [hidentifier, hscored]; decide)]
  · exact happroved
  · apply hmore ["MIT"] _ _ _ happroved
    simp [Includes, htrim]

end Clearance.License
