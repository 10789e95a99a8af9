import Clearance.Proofs.License.Printing

/-!
# Expressions put together

The texts of two expressions can be written one after the other with an operator between them. What
is written spells the tokens of one derivation, which is put together from theirs
(`Spelled.append`), so that its size is known from the number of their tokens and from the depth of
their parentheses.

In parentheses the two expressions stay what they are. Without them, `OR` makes one chain of both
(`Derivation.join`): the operands of the second expression are combined with those of the first,
which approves no more and no less (`isApproved_expr_join`).
-/

set_option autoImplicit false

namespace Clearance.License

namespace Token

/-! ## Texts one after the other -/

/-- What ends a word does so before more text as well. -/
theorem EndWord.append {cs ds : List Char} (h : EndWord cs) (h' : EndWord ds) :
    EndWord (cs ++ ds) := by
  cases cs with
  | nil => exact h'
  | cons c cs => exact h

/-- Text spells what its two parts do, where the second one does not go on with a word of the
first. -/
theorem Spelled.append {cs ds : List Char} {ts us : List Token} (h : Spelled cs ts)
    (hend : EndWord ds) (h' : Spelled ds us) : Spelled (cs ++ ds) (ts ++ us) := by
  induction h with
  | done => exact h'
  | blank isBlank _ ih => exact .blank isBlank ih
  | opening _ ih => exact .opening ih
  | closing _ ih => exact .closing ih
  | word isWord spelled longest _ ih =>
    rw [List.append_assoc]
    exact .word isWord spelled (longest.append hend) ih
  | laterName isWord free _ ih =>
    rw [List.append_assoc]
    exact .laterName isWord free ih

/-- A text that spells tokens spells them before anything that ends a word. -/
theorem prints_of_spelled {text : String} {ts : List Token} (h : Spelled text.toList ts) :
    Prints text ts := by
  intro rest us hend hrest
  exact h.append hend hrest

/-! ## Nested parentheses -/

/-- The largest number of parentheses that are open at a time, where `opened` of them are open
before. -/
def nesting : (opened : Nat) → List Token → Nat
  | opened, [] => opened
  | opened, .opening :: ts => nesting (opened + 1) ts
  | opened, .closing :: ts => max opened (nesting (opened - 1) ts)
  | opened, _ :: ts => nesting opened ts

/-- The nesting starts with the parentheses that are open before. -/
theorem le_nesting (opened : Nat) (ts : List Token) : opened ≤ nesting opened ts := by
  induction ts generalizing opened with
  | nil => exact Nat.le_refl _
  | cons t ts ih =>
    cases t with
    | opening => exact (Nat.le_succ opened).trans (ih (opened + 1))
    | closing => exact Nat.le_max_left _ _
    | _ => exact ih opened

/-- The parentheses of a phrase are closed again within it. -/
theorem nesting_tokens_append {k : Nonterminal} (p : Derivation k) (opened : Nat)
    (rest : List Token) :
    nesting opened (p.tokens ++ rest) = max (opened + p.depth) (nesting opened rest) := by
  induction p generalizing opened rest with
  | name text => exact (Nat.max_eq_right (le_nesting opened rest)).symm
  | laterName text => exact (Nat.max_eq_right (le_nesting opened rest)).symm
  | group inner ih =>
    rw [Derivation.tokens_group_append, nesting, ih, nesting, Nat.add_sub_cancel, Derivation.depth]
    omega
  | factor only ih => exact ih opened rest
  | and left right ihl ihr =>
    have htokens : (Derivation.and left right).tokens ++ rest =
        left.tokens ++ (.and :: (right.tokens ++ rest)) := by simp [Derivation.tokens]
    have hright : nesting opened (.and :: (right.tokens ++ rest)) =
        max (opened + right.depth) (nesting opened rest) := ihr opened rest
    rw [htokens, ihl, hright, Derivation.depth]
    omega
  | term only ih => exact ih opened rest
  | or left right ihl ihr =>
    have htokens : (Derivation.or left right).tokens ++ rest =
        left.tokens ++ (.or :: (right.tokens ++ rest)) := by simp [Derivation.tokens]
    have hright : nesting opened (.or :: (right.tokens ++ rest)) =
        max (opened + right.depth) (nesting opened rest) := ihr opened rest
    rw [htokens, ihl, hright, Derivation.depth]
    omega

end Token

/-! ## The size of a text -/

/-- The number of tokens that a text spells. -/
def tokenCount (s : String) : Nat := ((Token.ofChars? s.toList).getD []).length

/-- The depth to which the parentheses of a text nest. -/
def nesting (s : String) : Nat := Token.nesting 0 ((Token.ofChars? s.toList).getD [])

section size

variable {s : String} {p : Derivation .alternative}

/-- A text has as many tokens as the derivation that it spells. -/
theorem tokenCount_eq (h : Token.Spelled s.toList p.tokens) : tokenCount s = p.tokens.length := by
  rw [tokenCount, Token.ofChars?_eq_some_iff.2 h, Option.getD_some]

/-- A text nests as deep as the derivation that it spells. -/
theorem nesting_eq (h : Token.Spelled s.toList p.tokens) : nesting s = p.depth := by
  have hnesting := Token.nesting_tokens_append p 0 []
  rw [List.append_nil, Token.nesting, Nat.zero_add, Nat.max_zero] at hnesting
  rw [nesting, Token.ofChars?_eq_some_iff.2 h, Option.getD_some, hnesting]

/-- The text is no expression, and no licenses approve it. -/
def Refused (s : String) : Prop :=
  parse s = .invalid ∧ ∀ approves : String → Bool, (parse s).isApproved approves = false

/-- A text is refused if its derivation is beyond one of the limits. -/
theorem refused_of_beyond (h : Token.Spelled s.toList p.tokens)
    (beyond : ¬ (p.tokens.length ≤ maxTokens ∧ p.depth ≤ maxDepth)) : Refused s := by
  have hinvalid : parse s = .invalid := by rw [parse_eq_of_spelled h, if_neg beyond]
  refine ⟨hinvalid, fun approves => ?_⟩
  rw [hinvalid]
  rfl

end size

/-! ## Two expressions in one -/

/-- A join of alternatives is approved if one of them is. -/
theorem isApproved_expr_join (approves : String → Bool) (p : Derivation .alternative) :
    ∀ q : Derivation .alternative, (p.join q).expr.isApproved approves =
      (p.expr.isApproved approves || q.expr.isApproved approves)
  | .term _ => rfl
  | .or before last => by
    show ((p.join before).expr.isApproved approves || last.expr.isApproved approves) = _
    rw [isApproved_expr_join approves p before]
    exact Bool.or_assoc _ _ _

/-- The operator between two alternatives in parentheses. -/
def Derivation.groups (p q : Derivation .alternative) : Operator → Derivation .alternative
  | .and => .term (.and (.factor (.group p)) (.group q))
  | .or => .or (.term (.factor (.group p))) (.factor (.group q))

section groups

variable (p q : Derivation .alternative) (o : Operator)

/-- Two groups stand for the combination of what is in them. -/
theorem expr_groups : (p.groups q o).expr = o.combine p.expr q.expr := by
  cases o <;> rfl

/-- Two groups have five tokens more than what is in them: parentheses and an operator. -/
theorem length_tokens_groups :
    (p.groups q o).tokens.length = p.tokens.length + q.tokens.length + 5 := by
  cases o <;>
    simp only [Derivation.groups, Derivation.tokens, List.cons_append, List.length_cons,
      List.length_append, List.length_nil] <;>
    omega

/-- Two groups are one level deeper than the deeper one of what is in them. -/
theorem depth_groups : (p.groups q o).depth = max p.depth q.depth + 1 := by
  cases o <;> exact Nat.add_max_add_right _ _ 1

end groups

section texts

variable {a b : String} {us vs : List Token} {t : Token}

/-- Texts with an operator between them spell their tokens with its token between them. -/
theorem spelled_operator (keyword : String) (ha : Token.Spelled a.toList us)
    (hb : Token.Spelled b.toList vs) (word : Token.IsWord keyword.toList)
    (spelled : Token.SpelledBy keyword.toList t) :
    Token.Spelled (a ++ (" " ++ keyword ++ " ") ++ b).toList (us ++ t :: vs) := by
  apply Token.spelled_of_prints
  exact Token.prints_operator (Token.prints_of_spelled ha) (Token.prints_of_spelled hb) word spelled

/-- Texts in parentheses with an operator between them spell the tokens of two groups. -/
theorem spelled_groups (keyword : String) (ha : Token.Spelled a.toList us)
    (hb : Token.Spelled b.toList vs) (word : Token.IsWord keyword.toList)
    (spelled : Token.SpelledBy keyword.toList t) :
    Token.Spelled ("(" ++ a ++ (") " ++ keyword ++ " (") ++ b ++ ")").toList
      ((.opening :: us ++ [.closing]) ++ t :: (.opening :: vs ++ [.closing])) := by
  have htext : "(" ++ a ++ (") " ++ keyword ++ " (") ++ b ++ ")" =
      ("(" ++ a ++ ")") ++ (" " ++ keyword ++ " ") ++ ("(" ++ b ++ ")") := by
    apply String.toList_injective
    simp
  rw [htext]
  apply spelled_operator keyword _ _ word spelled
  · exact Token.spelled_of_prints (Token.prints_group (Token.prints_of_spelled ha))
  · exact Token.spelled_of_prints (Token.prints_group (Token.prints_of_spelled hb))

end texts

/-- Two expressions with `OR` between them are an expression where their tokens and one more are at
most 1024, and it is approved exactly if one of them is. In parentheses, with an operator between
them, they are the operands of the expression where there is room for five more tokens and for one
more level of parentheses. Beyond these limits the text is refused. -/
theorem parse_compose (a b : String) (ha : (parse a).isValid = true)
    (hb : (parse b).isValid = true) :
    (tokenCount a + tokenCount b + 1 ≤ 1024 →
      (parse (a ++ " OR " ++ b)).isValid = true ∧
      ∀ approves : String → Bool, (parse (a ++ " OR " ++ b)).isApproved approves = true ↔
        (parse a).isApproved approves = true ∨ (parse b).isApproved approves = true) ∧
    (1024 < tokenCount a + tokenCount b + 1 → Refused (a ++ " OR " ++ b)) ∧
    (tokenCount a + tokenCount b + 5 ≤ 1024 → nesting a ≤ 63 → nesting b ≤ 63 →
      parse ("(" ++ a ++ ") AND (" ++ b ++ ")") = .both (parse a) (parse b) ∧
      parse ("(" ++ a ++ ") OR (" ++ b ++ ")") = .either (parse a) (parse b)) ∧
    (1024 < tokenCount a + tokenCount b + 5 ∨ 63 < nesting a ∨ 63 < nesting b →
      Refused ("(" ++ a ++ ") AND (" ++ b ++ ")") ∧
      Refused ("(" ++ a ++ ") OR (" ++ b ++ ")")) := by
  obtain ⟨p, hp⟩ := exists_denotes_of_isValid ha
  obtain ⟨q, hq⟩ := exists_denotes_of_isValid hb
  have hor : Token.Spelled (a ++ " OR " ++ b).toList (p.join q).tokens := by
    rw [Derivation.tokens_join_alternative]
    exact spelled_operator "OR" hp.spelled hq.spelled Token.isWord_or (.or (by decide))
  have hand : Token.Spelled ("(" ++ a ++ ") AND (" ++ b ++ ")").toList (p.groups q .and).tokens :=
    spelled_groups "AND" hp.spelled hq.spelled Token.isWord_and (.and (by decide))
  have heither : Token.Spelled ("(" ++ a ++ ") OR (" ++ b ++ ")").toList (p.groups q .or).tokens :=
    spelled_groups "OR" hp.spelled hq.spelled Token.isWord_or (.or (by decide))
  have hjoined : (p.join q).tokens.length = p.tokens.length + q.tokens.length + 1 := by
    rw [Derivation.tokens_join_alternative, List.length_append, List.length_cons]
    omega
  have hdepth : (p.join q).depth ≤ maxDepth := by
    rw [Derivation.depth_join (by decide)]
    exact max_le hp.shallow hq.shallow
  -- From here on the sizes are those of the derivations, and the texts do not matter.
  rw [tokenCount_eq hp.spelled, tokenCount_eq hq.spelled, nesting_eq hp.spelled,
    nesting_eq hq.spelled, parse_eq_of_denotes hp, parse_eq_of_denotes hq]
  refine ⟨?_, ?_, ?_, ?_⟩
  · intro hshort
    have hdenotes : (p.join q).Denotes (a ++ " OR " ++ b) := ⟨hor, hjoined ▸ hshort, hdepth⟩
    rw [parse_eq_of_denotes hdenotes]
    refine ⟨Derivation.isValid_expr _, fun approves => ?_⟩
    rw [isApproved_expr_join, Bool.or_eq_true]
  · intro hlong
    apply refused_of_beyond hor
    rw [hjoined, maxTokens]
    omega
  · intro hshort hpdepth hqdepth
    have hlimits (o : Operator) :
        (p.groups q o).tokens.length ≤ maxTokens ∧ (p.groups q o).depth ≤ maxDepth := by
      rw [length_tokens_groups, depth_groups, maxTokens, maxDepth]
      omega
    rw [parse_eq_of_spelled hand, parse_eq_of_spelled heither, if_pos (hlimits .and),
      if_pos (hlimits .or), expr_groups, expr_groups]
    exact ⟨rfl, rfl⟩
  · intro hbeyond
    have hlimits (o : Operator) :
        ¬ ((p.groups q o).tokens.length ≤ maxTokens ∧ (p.groups q o).depth ≤ maxDepth) := by
      rw [length_tokens_groups, depth_groups, maxTokens, maxDepth]
      omega
    exact ⟨refused_of_beyond hand (hlimits .and), refused_of_beyond heither (hlimits .or)⟩

/-- Without parentheses the second expression goes on with the chain of the first one. -/
theorem parse_compose_of_chains :
    tokenCount "a or (b)" = 5 ∧ tokenCount "c OR d" = 3 ∧ nesting "a or (b)" = 1 ∧
    (parse ("a or (b)" ++ " OR " ++ "c OR d")).isValid = true ∧
    parse ("a or (b)" ++ " OR " ++ "c OR d") =
      .either (.either (.either (.license "a") (.license "b")) (.license "c")) (.license "d") ∧
    parse ("(" ++ "a or (b)" ++ ") OR (" ++ "c OR d" ++ ")") =
      .either (.either (.license "a") (.license "b")) (.either (.license "c") (.license "d")) := by
  have hleft : Token.ofChars? "a or (b)".toList =
      some [.name "a", .or, .opening, .name "b", .closing] := by cbv
  have hright : Token.ofChars? "c OR d".toList = some [.name "c", .or, .name "d"] := by cbv
  have hparseleft : parse "a or (b)" = .either (.license "a") (.license "b") := by
    rw [parse, hleft]
    rfl
  have hparseright : parse "c OR d" = .either (.license "c") (.license "d") := by
    rw [parse, hright]
    rfl
  have hsizes : tokenCount "a or (b)" = 5 ∧ tokenCount "c OR d" = 3 ∧ nesting "a or (b)" = 1 ∧
      nesting "c OR d" = 0 := by
    rw [tokenCount, tokenCount, nesting, nesting, hleft, hright]
    exact ⟨rfl, rfl, rfl, rfl⟩
  obtain ⟨hcountleft, hcountright, hnestingleft, hnestingright⟩ := hsizes
  obtain ⟨hjoined, -, hgroups, -⟩ :=
    parse_compose "a or (b)" "c OR d" (by rw [hparseleft]; rfl) (by rw [hparseright]; rfl)
  rw [hcountleft, hcountright] at hjoined hgroups
  rw [hnestingleft, hnestingright] at hgroups
  refine ⟨hcountleft, hcountright, hnestingleft, (hjoined (by decide)).1, by cbv, ?_⟩
  rw [(hgroups (by decide) (by decide) (by decide)).2, hparseleft, hparseright]

end Clearance.License
