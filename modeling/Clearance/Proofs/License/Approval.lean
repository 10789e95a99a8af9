import Clearance.License.ApprovedSet

/-!
# Approved expressions

An expression is approved if the accepted names satisfy it (`Expr.Satisfied`), and the accepted
names are the entries of a list without the white space around them (`Lists`). Neither knows a
negation, so a list that includes another one approves all that the other one does.
-/

set_option autoImplicit false

namespace Clearance.License

/-! ## Satisfied expressions -/

/-- The names that are accepted suffice for the expression. -/
inductive Expr.Satisfied (accepts : String → Prop) : Expr → Prop
  | license {name : String} (h : accepts name) : Satisfied accepts (.license name)
  | orLater {name : String} (h : accepts name) : Satisfied accepts (.orLater name)
  | both {left right : Expr} (hl : Satisfied accepts left) (hr : Satisfied accepts right) :
    Satisfied accepts (.both left right)
  | left {left right : Expr} (h : Satisfied accepts left) : Satisfied accepts (.either left right)
  | right {left right : Expr} (h : Satisfied accepts right) : Satisfied accepts (.either left right)

namespace Expr

/-- An expression is approved exactly if the approved names satisfy it. -/
theorem isApproved_iff_satisfied {approves : String → Bool} {e : Expr} :
    e.isApproved approves = true ↔ e.Satisfied fun name => approves name = true := by
  constructor
  · intro h
    induction e with
    | license name => exact .license h
    | orLater name => exact .orLater h
    | both left right ihl ihr =>
      obtain ⟨hl, hr⟩ := Bool.and_eq_true_iff.1 h
      exact .both (ihl hl) (ihr hr)
    | either left right ihl ihr =>
      rcases Bool.or_eq_true_iff.1 h with hl | hr
      · exact .left (ihl hl)
      · exact .right (ihr hr)
    | invalid => cases h
  · intro h
    induction h with
    | license h => exact h
    | orLater h => exact h
    | both _ _ ihl ihr => exact Bool.and_eq_true_iff.2 ⟨ihl, ihr⟩
    | left _ ih => exact Bool.or_eq_true_iff.2 (.inl ih)
    | right _ ih => exact Bool.or_eq_true_iff.2 (.inr ih)

/-- More names satisfy no less. -/
theorem Satisfied.mono {accepts others : String → Prop} {e : Expr}
    (more : ∀ name, accepts name → others name) (h : e.Satisfied accepts) : e.Satisfied others := by
  induction h with
  | license h => exact .license (more _ h)
  | orLater h => exact .orLater (more _ h)
  | both _ _ ihl ihr => exact .both ihl ihr
  | left _ ih => exact .left ih
  | right _ ih => exact .right ih

end Expr

/-! ## Lists of licenses -/

/-- The name is an entry of the list, apart from white space around it. -/
def Lists (entries : List String) (name : String) : Prop :=
  name ≠ "" ∧ ∃ entry ∈ entries, Text.trim entry = name

/-- All entries of a list that are not blank stand in another one. -/
def Includes (others entries : List String) : Prop :=
  ∀ entry ∈ entries, Text.trim entry ≠ "" → ∃ other ∈ others, Text.trim other = Text.trim entry

/-- A longer list lists more. -/
theorem Lists.mono {entries others : List String} (more : Includes others entries) {name : String}
    (h : Lists entries name) : Lists others name := by
  obtain ⟨hname, entry, hentry, rfl⟩ := h
  exact ⟨hname, more entry hentry hname⟩

/-- The set of a list contains just the names that the list holds. -/
theorem ApprovedSet.contains_ofList_iff {entries : List String} {name : String} :
    (ofList entries).contains name = true ↔ Lists entries name := by
  rw [contains, List.contains_iff_mem, ofList, List.mem_eraseDups]
  simp only [List.mem_filter, List.mem_map, Bool.not_eq_true', String.isEmpty_eq_false_iff]
  exact and_comm

/-- White space has no tokens. -/
theorem Token.ofChars?_of_blank {cs : List Char} (blank : cs.all Text.isBlank = true) :
    ofChars? cs = some [] := by
  induction cs with
  | nil => rw [ofChars?]
  | cons c cs ih =>
    rw [List.all_cons, Bool.and_eq_true] at blank
    rw [ofChars?, if_pos blank.1, ih blank.2]

/-- Blank text is no expression. -/
theorem parse_of_isBlankText {s : String} (blank : Text.isBlankText s = true) :
    parse s = .invalid := by
  rw [parse, Token.ofChars?_of_blank blank]
  rfl

/-- A text is approved exactly if the names on the list satisfy its expression. -/
theorem ApprovedSet.judgeText_ofList_iff {entries : List String} {s : String} :
    (ofList entries).judgeText s = .approved ↔ (parse s).Satisfied (Lists entries) := by
  have hnames : (fun name => (ofList entries).contains name = true) = Lists entries := by
    funext name
    exact propext contains_ofList_iff
  have hjudge : (ofList entries).judge (parse s) = .approved ↔
      (parse s).Satisfied (Lists entries) := by
    rw [← hnames, ← Expr.isApproved_iff_satisfied, judge]
    simp
  rw [judgeText]
  split
  · next hblank =>
    rw [parse_of_isBlankText hblank]
    constructor
    · intro h
      cases h
    · intro h
      cases h
  · exact hjudge

end Clearance.License
