import Clearance.Proofs.License.Printing

/-!
# The form with all parentheses

With a pair of parentheses around every combination, an expression is printed as an atom: its
derivation `asAtom` follows the expression node by node. So nothing is regrouped when the form is
read again, and the size of the form is known from the expression alone. The parentheses nest as
deep as the combinations do (`depth_asAtom`), and there are three tokens for every combination
besides the names (`length_tokens_asAtom`).

What is read again is therefore the expression itself, unless the form is beyond the limits. The
form determines the expression even then (`printFull_inj`), since its tokens do.
-/

set_option autoImplicit false

namespace Clearance.License

namespace Expr

/-- The number of names in the expression. -/
def leaves : Expr → Nat
  | both left right => left.leaves + right.leaves
  | either left right => left.leaves + right.leaves
  | _ => 1

/-- The largest number of combinations on a path from the whole expression to a name. -/
def height : Expr → Nat
  | both left right => max left.height right.height + 1
  | either left right => max left.height right.height + 1
  | _ => 0

/-- The derivation of the form with all parentheses. -/
def asAtom : Expr → Derivation .atom
  | license text => .name text
  | orLater text => .laterName text
  | both left right => .group (.term (.and (.factor left.asAtom) right.asAtom))
  | either left right => .group (.or (.term (.factor left.asAtom)) (.factor right.asAtom))
  | invalid => .name ""

/-- The form with all parentheses is as deep as the expression is high. -/
theorem depth_asAtom (e : Expr) : e.asAtom.depth = e.height := by
  induction e with
  | both left right ihl ihr =>
    show max left.asAtom.depth right.asAtom.depth + 1 = _
    rw [ihl, ihr, height]
  | either left right ihl ihr =>
    show max left.asAtom.depth right.asAtom.depth + 1 = _
    rw [ihl, ihr, height]
  | _ => rfl

/-- The form with all parentheses has four tokens for each name, less three. -/
theorem length_tokens_asAtom (e : Expr) : e.asAtom.tokens.length + 3 = 4 * e.leaves := by
  induction e with
  | both left right ihl ihr =>
    simp only [asAtom, Derivation.tokens, leaves, List.cons_append, List.length_cons,
      List.length_append, List.length_nil]
    omega
  | either left right ihl ihr =>
    simp only [asAtom, Derivation.tokens, leaves, List.cons_append, List.length_cons,
      List.length_append, List.length_nil]
    omega
  | _ => rfl

/-- The form with all parentheses stands for the expression. -/
theorem expr_asAtom {e : Expr} (h : e.Legible) : e.asAtom.expr = e := by
  induction e with
  | both left right ihl ihr =>
    show both left.asAtom.expr right.asAtom.expr = _
    rw [ihl h.1, ihr h.2]
  | either left right ihl ihr =>
    show either left.asAtom.expr right.asAtom.expr = _
    rw [ihl h.1, ihr h.2]
  | invalid => exact h.elim
  | _ => rfl

/-- The form with all parentheses spells the tokens of its derivation. -/
theorem prints_printFull {e : Expr} (h : e.Legible) :
    Token.Prints e.printFull e.asAtom.tokens := by
  induction e with
  | license name => exact Token.prints_name h.1 h.2
  | orLater name => exact Token.prints_laterName h.1 h.2
  | both left right ihl ihr =>
    have hand := Token.prints_operator (ihl h.1) (ihr h.2) Token.isWord_and (.and (by decide))
    have htext : (both left right).printFull =
        "(" ++ (left.printFull ++ " AND " ++ right.printFull) ++ ")" := by
      simp only [printFull, String.append_assoc]
    rw [htext]
    exact Token.prints_group hand
  | either left right ihl ihr =>
    have hor := Token.prints_operator (ihl h.1) (ihr h.2) Token.isWord_or (.or (by decide))
    have htext : (either left right).printFull =
        "(" ++ (left.printFull ++ " OR " ++ right.printFull) ++ ")" := by
      simp only [printFull, String.append_assoc]
    rw [htext]
    exact Token.prints_group hor
  | invalid => exact h.elim

/-- The form with all parentheses spells the tokens of an alternative. -/
theorem spelled_printFull {e : Expr} (h : e.Legible) :
    Token.Spelled e.printFull.toList (Derivation.term (.factor e.asAtom)).tokens :=
  Token.spelled_of_prints (prints_printFull h)

/-- Different expressions have different forms with all parentheses. -/
theorem printFull_inj {e f : Expr} (he : e.Legible) (hf : f.Legible)
    (h : e.printFull = f.printFull) : e = f := by
  have hspelled := spelled_printFull hf
  rw [← h] at hspelled
  have htokens := (spelled_printFull he).eq_tokens hspelled
  have hatom := Derivation.eq_of_tokens_eq htokens
  injection hatom with hfactor
  injection hfactor with hatom
  rw [← expr_asAtom he, hatom, expr_asAtom hf]

/-- What is printed for text that is no expression spells no tokens. -/
theorem ofChars?_printFull_invalid : Token.ofChars? invalid.printFull.toList = none := by
  cbv

/-- No legible expression is printed as the invalid one is. -/
theorem printFull_ne_of_legible {e : Expr} (h : e.Legible) : e.printFull ≠ invalid.printFull := by
  intro hform
  have hspelled := Token.ofChars?_eq_some_iff.2 (spelled_printFull h)
  rw [hform, ofChars?_printFull_invalid] at hspelled
  cases hspelled

end Expr

/-- What was read and printed with all parentheses is read as the same expression where its
combinations nest at most 64 deep and the form has at most 1024 tokens, and is refused otherwise.
Two texts with the same form are read as the same expression, of any size, or both refused. -/
theorem parse_printFull (s : String) :
    (parse (parse s).printFull =
      if (parse s).height ≤ 64 ∧ 4 * (parse s).leaves - 3 ≤ 1024 then parse s else .invalid) ∧
    ∀ t : String, (parse s).printFull = (parse t).printFull → parse s = parse t := by
  constructor
  · by_cases hvalid : (parse s).isValid = true
    · have hlegible := legible_parse hvalid
      have hlength := (parse s).length_tokens_asAtom
      have hlimits : (parse s).asAtom.tokens.length ≤ maxTokens ∧
          (parse s).asAtom.depth ≤ maxDepth ↔
            (parse s).height ≤ 64 ∧ 4 * (parse s).leaves - 3 ≤ 1024 := by
        rw [Expr.depth_asAtom, maxTokens, maxDepth]
        omega
      rw [parse_eq_of_spelled (Expr.spelled_printFull hlegible)]
      simp only [Derivation.tokens, Derivation.depth, Derivation.expr, hlimits,
        Expr.expr_asAtom hlegible]
    · have hrefused : parse Expr.invalid.printFull = .invalid := by
        rw [parse, Expr.ofChars?_printFull_invalid, Option.bind_none, Option.getD_none]
      rw [Expr.eq_invalid hvalid, hrefused, ite_self]
  · intro t hform
    by_cases hs : (parse s).isValid = true
    · by_cases ht : (parse t).isValid = true
      · exact Expr.printFull_inj (legible_parse hs) (legible_parse ht) hform
      · rw [Expr.eq_invalid ht] at hform
        exact absurd hform (Expr.printFull_ne_of_legible (legible_parse hs))
    · by_cases ht : (parse t).isValid = true
      · rw [Expr.eq_invalid hs] at hform
        exact absurd hform.symm (Expr.printFull_ne_of_legible (legible_parse ht))
      · rw [Expr.eq_invalid hs, Expr.eq_invalid ht]

end Clearance.License
