import Clearance.License.Expr
import Mathlib.Data.List.Induction

/-!
# Grouping to the left

Parentheses leave no trace in an expression, and it is printed with no more of them than its meaning
needs. Between operands of one operator it needs none, so that the printed form cannot be told apart
from the one of operands that group to the left.

`regroup` groups the operands of every chain of one operator to the left and leaves their order as
it is (`regroup_eq_foldl`). This changes neither the printed form nor what approves the expression.

The two operators are treated alike. What is shown of a chain goes by `chain_induction`: an
expression combines two others with the operator, or it is a single operand.
-/

set_option autoImplicit false

namespace Clearance.License

/-- What combines two expressions. -/
inductive Operator where
  | and
  | or
  deriving DecidableEq, Repr

/-- The expression that combines two others with the operator. -/
def Operator.combine : Operator → Expr → Expr → Expr
  | .and => .both
  | .or => .either

namespace Expr

/-- The expression combines two others with this operator. -/
def isOf (o : Operator) : Expr → Bool
  | both _ _ => o == .and
  | either _ _ => o == .or
  | _ => false

/-- No `AND` has an `AND` as its right operand, and no `OR` has an `OR` there. -/
def isLeftGrouped : Expr → Bool
  | both left right => left.isLeftGrouped && right.isLeftGrouped && !right.isOf .and
  | either left right => left.isLeftGrouped && right.isLeftGrouped && !right.isOf .or
  | _ => true

/-- `left` and the operands of `right`, combined to the left. -/
def join (o : Operator) (left : Expr) : Expr → Expr
  | both a b => if o = .and then both (left.join o a) b else o.combine left (both a b)
  | either a b => if o = .or then either (left.join o a) b else o.combine left (either a b)
  | e => o.combine left e

/-- The expression with the operands of every chain of one operator combined to the left. -/
def regroup : Expr → Expr
  | both left right => left.regroup.join .and right.regroup
  | either left right => left.regroup.join .or right.regroup
  | e => e

/-- The operands of the chain of this operator at the top of the expression. -/
def operands (o : Operator) : Expr → List Expr
  | both a b => if o = .and then a.operands o ++ b.operands o else [both a b]
  | either a b => if o = .or then a.operands o ++ b.operands o else [either a b]
  | e => [e]

/-! ## Chains of one operator -/

section chain

variable {o : Operator} {left right : Expr}

/-- Induction along the chain of one operator: over its combinations, down to the operands. -/
theorem chain_induction (o : Operator) {motive : Expr → Prop}
    (combine : ∀ a b, motive a → motive b → motive (o.combine a b))
    (operand : ∀ e, e.isOf o = false → motive e) (e : Expr) : motive e := by
  induction e with
  | both a b iha ihb =>
    cases o with
    | and => exact combine a b iha ihb
    | or => exact operand _ rfl
  | either a b iha ihb =>
    cases o with
    | and => exact operand _ rfl
    | or => exact combine a b iha ihb
  | _ => exact operand _ rfl

/-- A combination is of its own operator only. -/
theorem isOf_combine (p : Operator) (a b : Expr) : (p.combine a b).isOf o = (o == p) := by
  cases p <;> rfl

/-- Joining a combination joins its left operand and combines with the right one. -/
theorem join_combine (a b : Expr) : left.join o (o.combine a b) = o.combine (left.join o a) b := by
  cases o <;> rfl

/-- Joining what is no combination of the operator combines with it. -/
theorem join_operand (h : right.isOf o = false) : left.join o right = o.combine left right := by
  cases right <;> cases o <;> first | rfl | cases h

/-- The operands of a combination are those of its left and those of its right operand. -/
theorem operands_combine (a b : Expr) :
    (o.combine a b).operands o = a.operands o ++ b.operands o := by
  cases o <;> rfl

/-- What is no combination of the operator is an operand itself. -/
theorem operands_operand (h : right.isOf o = false) : right.operands o = [right] := by
  cases right <;> cases o <;> first | rfl | cases h

/-- A combination is grouped to the left if both operands are and the right one is no such
combination. -/
theorem isLeftGrouped_combine (a b : Expr) :
    (o.combine a b).isLeftGrouped = (a.isLeftGrouped && b.isLeftGrouped && !b.isOf o) := by
  cases o <;> rfl

/-- A combination is regrouped by joining what its operands are regrouped to. -/
theorem regroup_combine (a b : Expr) : (o.combine a b).regroup = a.regroup.join o b.regroup := by
  cases o <;> rfl

/-- A join is a combination of its operator. -/
theorem isOf_join (p : Operator) : (left.join p right).isOf o = (o == p) := by
  induction right using chain_induction p with
  | combine a b => rw [join_combine, isOf_combine]
  | operand e h => rw [join_operand h, isOf_combine]

/-- How joins of one operator are grouped makes no difference. -/
theorem join_assoc (a b c : Expr) : a.join o (b.join o c) = (a.join o b).join o c := by
  induction c using chain_induction o with
  | combine l r ihl _ => rw [join_combine, join_combine, join_combine, ihl]
  | operand e h => rw [join_operand h, join_operand h, join_combine]

/-- What is grouped to the left is so after a join. -/
theorem isLeftGrouped_join (hl : left.isLeftGrouped = true) (hr : right.isLeftGrouped = true) :
    (left.join o right).isLeftGrouped = true := by
  induction right using chain_induction o with
  | combine a b iha _ =>
    rw [isLeftGrouped_combine, Bool.and_eq_true, Bool.and_eq_true] at hr
    obtain ⟨⟨ha, hb⟩, hend⟩ := hr
    have hjoined : (left.join o a).isLeftGrouped = true := iha ha
    rw [join_combine, isLeftGrouped_combine, hjoined, hb, hend]
    rfl
  | operand e h =>
    rw [join_operand h, isLeftGrouped_combine, hl, hr, h]
    rfl

/-- Where the operands of a chain stand in parentheses does not matter for its approval. -/
theorem isApproved_join (approves : String → Bool) :
    (left.join o right).isApproved approves = (o.combine left right).isApproved approves := by
  induction right using chain_induction o with
  | combine a b iha _ =>
    rw [join_combine]
    cases o with
    | and =>
      show ((left.join .and a).isApproved approves && b.isApproved approves) = _
      rw [iha]
      exact Bool.and_assoc _ _ _
    | or =>
      show ((left.join .or a).isApproved approves || b.isApproved approves) = _
      rw [iha]
      exact Bool.or_assoc _ _ _
  | operand e h => rw [join_operand h]

/-- Where the operands of a chain stand in parentheses is not printed. -/
theorem printAs_join (operand : Bool) :
    (left.join o right).printAs operand = (o.combine left right).printAs operand := by
  induction right using chain_induction o generalizing operand with
  | combine a b iha _ =>
    rw [join_combine]
    cases o with
    | and =>
      show (left.join .and a).printAs true ++ " AND " ++ b.printAs true = _
      rw [iha]
      simp only [Operator.combine, printAs, String.append_assoc]
    | or =>
      have hfalse : (left.join .or a).printAs false ++ " OR " ++ b.printAs false =
          left.printAs false ++ " OR " ++ (either a b).printAs false := by
        rw [iha]
        simp only [Operator.combine, printAs, Bool.false_eq_true, if_false, String.append_assoc]
      simp only [Operator.combine, printAs, hfalse]
  | operand e h => rw [join_operand h]

/-- An operand of a chain is no combination of its operator. -/
theorem isOf_of_mem_operands {e operand : Expr} (h : operand ∈ e.operands o) :
    operand.isOf o = false := by
  induction e using chain_induction o with
  | combine a b iha ihb =>
    rw [operands_combine] at h
    rcases List.mem_append.1 h with hleft | hright
    · exact iha hleft
    · exact ihb hright
  | operand e he =>
    rw [operands_operand he] at h
    obtain rfl := List.mem_singleton.1 h
    exact he

/-- Joining operands that are combined to the left combines them behind the others. -/
theorem join_foldl (left first : Expr) (others : List Expr) (h : first.isOf o = false) :
    left.join o (others.foldl o.combine first) = others.foldl o.combine (o.combine left first) := by
  induction others using List.reverseRecOn with
  | nil => exact join_operand h
  | append_singleton others last ih =>
    simp only [List.foldl_append, List.foldl_cons, List.foldl_nil, join_combine, ih]

end chain

/-! ## Regrouping -/

/-- Regrouping keeps the operator at the top. -/
theorem isOf_regroup (o : Operator) (e : Expr) : e.regroup.isOf o = e.isOf o := by
  cases e with
  | both left right => exact isOf_join .and
  | either left right => exact isOf_join .or
  | _ => rfl

/-- The operands of a chain stay in their order and are combined to the left. -/
theorem regroup_eq_foldl (o : Operator) (e : Expr) :
    ∃ first others, e.operands o = first :: others ∧
      e.regroup = (others.map regroup).foldl o.combine first.regroup := by
  induction e using chain_induction o with
  | combine left right ihl ihr =>
    obtain ⟨first, others, hleft, hl⟩ := ihl
    obtain ⟨second, more, hright, hr⟩ := ihr
    have hsecond : second.regroup.isOf o = false := by
      rw [isOf_regroup]
      exact isOf_of_mem_operands (hright ▸ List.mem_cons_self)
    refine ⟨first, others ++ second :: more, by simp [operands_combine, hleft, hright], ?_⟩
    rw [regroup_combine, hl, hr, join_foldl _ _ _ hsecond, List.map_append, List.foldl_append]
    rfl
  | operand e h => exact ⟨e, [], operands_operand h, rfl⟩

/-- What is regrouped is grouped to the left. -/
theorem isLeftGrouped_regroup (e : Expr) : e.regroup.isLeftGrouped = true := by
  induction e with
  | both left right ihl ihr => exact isLeftGrouped_join ihl ihr
  | either left right ihl ihr => exact isLeftGrouped_join ihl ihr
  | _ => rfl

/-- Only an expression that is not grouped to the left is changed. -/
theorem regroup_eq_self_iff (e : Expr) : e.regroup = e ↔ e.isLeftGrouped = true := by
  constructor
  · intro h
    rw [← h]
    exact isLeftGrouped_regroup e
  · intro h
    induction e with
    | both left right ihl ihr =>
      simp only [isLeftGrouped, Bool.and_eq_true, Bool.not_eq_true'] at h
      obtain ⟨⟨hl, hr⟩, hend⟩ := h
      rw [regroup, ihl hl, ihr hr, join_operand hend]
      rfl
    | either left right ihl ihr =>
      simp only [isLeftGrouped, Bool.and_eq_true, Bool.not_eq_true'] at h
      obtain ⟨⟨hl, hr⟩, hend⟩ := h
      rw [regroup, ihl hl, ihr hr, join_operand hend]
      rfl
    | _ => rfl

/-- Regrouping makes no difference to the approval. -/
theorem isApproved_regroup (approves : String → Bool) (e : Expr) :
    e.regroup.isApproved approves = e.isApproved approves := by
  induction e with
  | both left right ihl ihr =>
    rw [regroup, isApproved_join, Operator.combine, isApproved, isApproved, ihl, ihr]
  | either left right ihl ihr =>
    rw [regroup, isApproved_join, Operator.combine, isApproved, isApproved, ihl, ihr]
  | _ => rfl

/-- Regrouping makes no difference to what is printed. -/
theorem printAs_regroup (operand : Bool) (e : Expr) :
    e.regroup.printAs operand = e.printAs operand := by
  induction e generalizing operand with
  | both left right ihl ihr =>
    rw [regroup, printAs_join, Operator.combine, printAs, printAs, ihl, ihr]
  | either left right ihl ihr =>
    rw [regroup, printAs_join, Operator.combine, printAs, printAs, ihl, ihr]
  | _ => rfl

end Expr

end Clearance.License
