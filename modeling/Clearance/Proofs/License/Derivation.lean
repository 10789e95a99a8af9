import Clearance.License.Expr
import Clearance.License.Token

/-!
# Derivations of license expressions

The grammar of license expressions as a type of derivation trees:

```text
alternative ::= conjunction | alternative OR conjunction
conjunction ::= atom | conjunction AND atom
atom        ::= name | name + | "(" alternative ")"
```

A derivation has the tokens that it derives, the expression that it stands for, and the depth to
which its parentheses nest. The grammar is unambiguous: tokens have at most one derivation
(`eq_of_tokens_eq`).
-/

set_option autoImplicit false

namespace Clearance.License

/-- What the grammar derives. -/
inductive Nonterminal where
  /-- One conjunction, or several with `OR` between them. -/
  | alternative
  /-- One atom, or several with `AND` between them. -/
  | conjunction
  | atom
  deriving DecidableEq, Repr

/-- Derivation trees. -/
inductive Derivation : Nonterminal → Type where
  | name (text : String) : Derivation .atom
  | laterName (text : String) : Derivation .atom
  | group (inner : Derivation .alternative) : Derivation .atom
  | factor (only : Derivation .atom) : Derivation .conjunction
  | and (left : Derivation .conjunction) (right : Derivation .atom) : Derivation .conjunction
  | term (only : Derivation .conjunction) : Derivation .alternative
  | or (left : Derivation .alternative) (right : Derivation .conjunction) : Derivation .alternative

namespace Derivation

/-- The tokens that are derived. -/
def tokens : {k : Nonterminal} → Derivation k → List Token
  | _, name text => [.name text]
  | _, laterName text => [.laterName text]
  | _, group inner => .opening :: inner.tokens ++ [.closing]
  | _, factor only => only.tokens
  | _, and left right => left.tokens ++ .and :: right.tokens
  | _, term only => only.tokens
  | _, or left right => left.tokens ++ .or :: right.tokens

/-- The expression that a derivation stands for. Parentheses leave no trace in it. -/
def expr : {k : Nonterminal} → Derivation k → Expr
  | _, name text => .license text
  | _, laterName text => .orLater text
  | _, group inner => inner.expr
  | _, factor only => only.expr
  | _, and left right => .both left.expr right.expr
  | _, term only => only.expr
  | _, or left right => .either left.expr right.expr

/-- The depth to which parentheses nest. -/
def depth : {k : Nonterminal} → Derivation k → Nat
  | _, name _ => 0
  | _, laterName _ => 0
  | _, group inner => inner.depth + 1
  | _, factor only => only.depth
  | _, and left right => max left.depth right.depth
  | _, term only => only.depth
  | _, or left right => max left.depth right.depth

/-- A group starts with its opening parenthesis, and the closing one ends it. -/
theorem tokens_group_append (inner : Derivation .alternative) (rest : List Token) :
    (group inner).tokens ++ rest = .opening :: (inner.tokens ++ .closing :: rest) := by
  simp [tokens]

/-- The expression of a derivation is valid. -/
theorem isValid_expr {k : Nonterminal} (p : Derivation k) : p.expr.isValid = true := by
  induction p with
  | name text => rfl
  | laterName text => rfl
  | group inner ih => exact ih
  | factor only ih => exact ih
  | and left right _ _ => rfl
  | term only ih => exact ih
  | or left right _ _ => rfl

/-! ## Unambiguity -/

/-- The tokens cannot go on with a phrase of this kind as if they were a part of it: the last one is
no operator within such a phrase. -/
def Apart : Nonterminal → List Token → Prop
  | .atom, _ => True
  | .conjunction, before => before.getLast? ≠ some .and
  | .alternative, before => before.getLast? ≠ some .and ∧ before.getLast? ≠ some .or

/-- The last token of an atom. -/
def lastToken : Derivation .atom → Token
  | name text => .name text
  | laterName text => .laterName text
  | group _ => .closing

/-- The last token of an atom is the last one of a text that ends with it. -/
theorem getLast?_atom (before : List Token) (p : Derivation .atom) :
    (before ++ p.tokens).getLast? = some p.lastToken := by
  cases p with
  | name text => simp [tokens, lastToken]
  | laterName text => simp [tokens, lastToken]
  | group inner =>
    have hconcat : before ++ (group inner).tokens =
        (before ++ .opening :: inner.tokens) ++ [.closing] := by simp [tokens]
    rw [hconcat, List.getLast?_concat, lastToken]

/-- Atoms at the end of the same tokens have the same last token. -/
theorem lastToken_eq {p q : Derivation .atom} {a b : List Token}
    (h : a ++ p.tokens = b ++ q.tokens) : p.lastToken = q.lastToken := by
  have hlast := congrArg List.getLast? h
  rw [getLast?_atom, getLast?_atom] at hlast
  exact Option.some.inj hlast

/-- Tokens that end with a phrase decide where it begins, and its derivation.

The operators group to the left, so the rightmost operand is found first and the induction goes on
with what stands before it. -/
theorem eq_of_append_tokens_eq {k : Nonterminal} (p q : Derivation k) {a b : List Token}
    (ha : Apart k a) (hb : Apart k b) (h : a ++ p.tokens = b ++ q.tokens) : a = b ∧ p = q := by
  -- The last operands agree, and `Apart` tells whether an operator of the phrase comes before.
  induction p generalizing a b with
  | name text =>
    cases q with
    | name other =>
      obtain rfl : text = other := Token.name.inj (lastToken_eq h)
      exact ⟨List.append_cancel_right h, rfl⟩
    | laterName other => exact absurd (lastToken_eq h) (by simp [lastToken])
    | group inner => exact absurd (lastToken_eq h) (by simp [lastToken])
  | laterName text =>
    cases q with
    | name other => exact absurd (lastToken_eq h) (by simp [lastToken])
    | laterName other =>
      obtain rfl : text = other := Token.laterName.inj (lastToken_eq h)
      exact ⟨List.append_cancel_right h, rfl⟩
    | group inner => exact absurd (lastToken_eq h) (by simp [lastToken])
  | group inner ih =>
    cases q with
    | name other => exact absurd (lastToken_eq h) (by simp [lastToken])
    | laterName other => exact absurd (lastToken_eq h) (by simp [lastToken])
    | group other =>
      have hinner : (a ++ [.opening]) ++ inner.tokens = (b ++ [.opening]) ++ other.tokens := by
        have hclosed : (a ++ .opening :: inner.tokens) ++ [.closing] =
            (b ++ .opening :: other.tokens) ++ [.closing] := by simpa [tokens] using h
        simpa using List.append_cancel_right hclosed
      obtain ⟨hab, rfl⟩ := ih other (by simp [Apart]) (by simp [Apart]) hinner
      exact ⟨List.append_cancel_right hab, rfl⟩
  | factor only ih =>
    cases q with
    | factor other =>
      obtain ⟨hab, rfl⟩ := ih other trivial trivial h
      exact ⟨hab, rfl⟩
    | and left right =>
      have hright : a ++ only.tokens = (b ++ left.tokens ++ [.and]) ++ right.tokens := by
        simpa [tokens] using h
      obtain ⟨hab, -⟩ := ih right trivial trivial hright
      exact absurd (by rw [hab, List.getLast?_concat]) ha
  | and left right ihl ihr =>
    cases q with
    | factor other =>
      have hright : (a ++ left.tokens ++ [.and]) ++ right.tokens = b ++ other.tokens := by
        simpa [tokens] using h
      obtain ⟨hab, -⟩ := ihr other trivial trivial hright
      exact absurd (by rw [← hab, List.getLast?_concat]) hb
    | and left' right' =>
      have hright : (a ++ left.tokens ++ [.and]) ++ right.tokens =
          (b ++ left'.tokens ++ [.and]) ++ right'.tokens := by
        simpa [tokens] using h
      obtain ⟨hleft, rfl⟩ := ihr right' trivial trivial hright
      obtain ⟨hab, rfl⟩ := ihl left' ha hb (List.append_cancel_right hleft)
      exact ⟨hab, rfl⟩
  | term only ih =>
    cases q with
    | term other =>
      obtain ⟨hab, rfl⟩ := ih other ha.1 hb.1 h
      exact ⟨hab, rfl⟩
    | or left right =>
      have hright : a ++ only.tokens = (b ++ left.tokens ++ [.or]) ++ right.tokens := by
        simpa [tokens] using h
      obtain ⟨hab, -⟩ := ih right ha.1 (by simp [Apart]) hright
      exact absurd (by rw [hab, List.getLast?_concat]) ha.2
  | or left right ihl ihr =>
    cases q with
    | term other =>
      have hright : (a ++ left.tokens ++ [.or]) ++ right.tokens = b ++ other.tokens := by
        simpa [tokens] using h
      obtain ⟨hab, -⟩ := ihr other (by simp [Apart]) hb.1 hright
      exact absurd (by rw [← hab, List.getLast?_concat]) hb.2
    | or left' right' =>
      have hright : (a ++ left.tokens ++ [.or]) ++ right.tokens =
          (b ++ left'.tokens ++ [.or]) ++ right'.tokens := by
        simpa [tokens] using h
      obtain ⟨hleft, rfl⟩ := ihr right' (by simp [Apart]) (by simp [Apart]) hright
      obtain ⟨hab, rfl⟩ := ihl left' ha hb (List.append_cancel_right hleft)
      exact ⟨hab, rfl⟩

/-- The grammar is unambiguous. -/
theorem eq_of_tokens_eq {p q : Derivation .alternative} (h : p.tokens = q.tokens) : p = q := by
  have hnothing : Apart .alternative [] := by simp [Apart]
  exact (eq_of_append_tokens_eq p q hnothing hnothing h).2

end Derivation

end Clearance.License
