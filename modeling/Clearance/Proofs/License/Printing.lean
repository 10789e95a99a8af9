import Clearance.Proofs.License.Grammar
import Clearance.Proofs.License.Regrouping

/-!
# Reading what was printed

The printed form of an expression is read as the same expression with its operands grouped to the
left. The derivation of the printed form is built along the expression, `asConjunction` where it is
an operand of `AND` and `asAlternative` where it is not. It never has more tokens or deeper
parentheses than any other derivation of the expression (`within_phrases`), so that what has been
read within the limits is printed within them.
-/

set_option autoImplicit false

namespace Clearance.License

namespace Derivation

/-! ## Joining derivations -/

/-- The phrase of the operands of both, with the operator of their kind between them. Atoms have
none, and the second one of them is left as it is. -/
def join : {k : Nonterminal} → Derivation k → Derivation k → Derivation k
  | _, left, factor only => and left only
  | _, left, and before last => and (left.join before) last
  | _, left, term only => or left only
  | _, left, or before last => or (left.join before) last
  | _, _, phrase => phrase

/-- How joins are grouped makes no difference. -/
theorem join_assoc {k : Nonterminal} (a b c : Derivation k) :
    a.join (b.join c) = (a.join b).join c := by
  induction c with
  | and before last ih _ =>
    show and (a.join (b.join before)) last = and ((a.join b).join before) last
    rw [ih]
  | or before last ih _ =>
    show or (a.join (b.join before)) last = or ((a.join b).join before) last
    rw [ih]
  | _ => rfl

/-- The tokens of joined conjunctions have an `AND` between them. -/
theorem tokens_join_conjunction (a : Derivation .conjunction) :
    ∀ b : Derivation .conjunction, (a.join b).tokens = a.tokens ++ .and :: b.tokens
  | factor _ => rfl
  | and before _ => by simp [join, tokens, tokens_join_conjunction a before]

/-- The tokens of joined alternatives have an `OR` between them. -/
theorem tokens_join_alternative (a : Derivation .alternative) :
    ∀ b : Derivation .alternative, (a.join b).tokens = a.tokens ++ .or :: b.tokens
  | term _ => rfl
  | or before _ => by simp [join, tokens, tokens_join_alternative a before]

/-- A join is as deep as the deeper one of the two. -/
theorem depth_join {k : Nonterminal} (hk : k ≠ .atom) (a b : Derivation k) :
    (a.join b).depth = max a.depth b.depth := by
  induction b with
  | factor only => rfl
  | and before last ih _ => rw [join, depth, ih hk, depth, Nat.max_assoc]
  | term only => rfl
  | or before last ih _ => rw [join, depth, ih hk, depth, Nat.max_assoc]
  | _ => exact absurd rfl hk

/-- The first derivation has no more tokens than the second one and no deeper parentheses. -/
structure Within {j k : Nonterminal} (p : Derivation j) (q : Derivation k) : Prop where
  short : p.tokens.length ≤ q.tokens.length
  shallow : p.depth ≤ q.depth

/-- What is within a derivation is within all that this is within. -/
theorem Within.trans {i j k : Nonterminal} {p : Derivation i} {q : Derivation j}
    {r : Derivation k} (h : p.Within q) (h' : q.Within r) : p.Within r :=
  ⟨h.short.trans h'.short, h.shallow.trans h'.shallow⟩

/-- A derivation is within its group. -/
theorem within_group (p : Derivation .alternative) : p.Within (group p) := by
  constructor
  · simp only [tokens, List.cons_append, List.length_cons, List.length_append]
    omega
  · exact Nat.le_succ _

/-- A group is within another one if what is in it is. -/
theorem Within.group {p q : Derivation .alternative} (h : p.Within q) :
    (Derivation.group p).Within (Derivation.group q) := by
  have hshort := h.short
  have hshallow := h.shallow
  constructor
  · simp only [tokens, List.cons_append, List.length_cons, List.length_append]
    omega
  · exact Nat.succ_le_succ hshallow

/-- Joined conjunctions are within the `AND` of what they are within. -/
theorem Within.and {p q left : Derivation .conjunction} {right : Derivation .atom}
    (hleft : p.Within left) (hright : q.Within right) :
    (p.join q).Within (Derivation.and left right) := by
  have hp := hleft.short
  have hq := hright.short
  have hpdepth := hleft.shallow
  have hqdepth := hright.shallow
  constructor
  · rw [tokens_join_conjunction, tokens, List.length_append, List.length_append, List.length_cons,
      List.length_cons]
    omega
  · rw [depth_join (by decide), depth]
    omega

/-- Joined alternatives are within the `OR` of what they are within. -/
theorem Within.or {p q left : Derivation .alternative} {right : Derivation .conjunction}
    (hleft : p.Within left) (hright : q.Within right) :
    (p.join q).Within (Derivation.or left right) := by
  have hp := hleft.short
  have hq := hright.short
  have hpdepth := hleft.shallow
  have hqdepth := hright.shallow
  constructor
  · rw [tokens_join_alternative, tokens, List.length_append, List.length_append, List.length_cons,
      List.length_cons]
    omega
  · rw [depth_join (by decide), depth]
    omega

end Derivation

/-! ## The phrases that an expression is printed as -/

namespace Expr

mutual

/-- The derivation of what is printed where the expression is an operand of `AND`. -/
def asConjunction : Expr → Derivation .conjunction
  | license text => .factor (.name text)
  | orLater text => .factor (.laterName text)
  | both left right => left.asConjunction.join right.asConjunction
  | either left right => .factor (.group (left.asAlternative.join right.asAlternative))
  | invalid => .factor (.name "")

/-- The derivation of what is printed where the expression is no operand of `AND`. -/
def asAlternative : Expr → Derivation .alternative
  | license text => .term (.factor (.name text))
  | orLater text => .term (.factor (.laterName text))
  | both left right => .term (left.asConjunction.join right.asConjunction)
  | either left right => left.asAlternative.join right.asAlternative
  | invalid => .term (.factor (.name ""))

end

/-- All names of the expression are words that are not reserved, and it holds nothing invalid. -/
def Legible : Expr → Prop
  | license text => Token.IsWord text.toList ∧ ¬ Token.IsReserved text.toList
  | orLater text => Token.IsWord text.toList ∧ ¬ Token.IsReserved text.toList
  | both left right => left.Legible ∧ right.Legible
  | either left right => left.Legible ∧ right.Legible
  | invalid => False

/-- What is printed stands for the expression with its operands grouped to the left.

A chain goes on where it is joined to what stands before it, so the claim for the operands of a
chain is one about every such beginning. -/
theorem expr_phrases {e : Expr} (h : e.Legible) :
    (e.asConjunction.expr = e.regroup ∧
      ∀ c : Derivation .conjunction,
        (c.join e.asConjunction).expr = c.expr.join .and e.regroup) ∧
    (e.asAlternative.expr = e.regroup ∧
      ∀ a : Derivation .alternative,
        (a.join e.asAlternative).expr = a.expr.join .or e.regroup) := by
  -- Both forms at once, since the operands of one operator may be combinations by the other.
  induction e with
  | license name => exact ⟨⟨rfl, fun _ => rfl⟩, rfl, fun _ => rfl⟩
  | orLater name => exact ⟨⟨rfl, fun _ => rfl⟩, rfl, fun _ => rfl⟩
  | both left right ihl ihr =>
    obtain ⟨⟨hleft, hjoinleft⟩, -⟩ := ihl h.1
    obtain ⟨⟨-, hjoinright⟩, -⟩ := ihr h.2
    have hexpr : (left.asConjunction.join right.asConjunction).expr =
        left.regroup.join .and right.regroup := by rw [hjoinright, hleft]
    refine ⟨⟨hexpr, fun c => ?_⟩, hexpr, fun a => ?_⟩
    · rw [asConjunction, Derivation.join_assoc, hjoinright, hjoinleft, regroup, join_assoc]
    · have hother : (left.regroup.join .and right.regroup).isOf .or = false := isOf_join .and
      show Expr.either a.expr (left.asConjunction.join right.asConjunction).expr = _
      rw [hexpr, regroup, join_operand hother]
      rfl
  | either left right ihl ihr =>
    obtain ⟨-, hleft, hjoinleft⟩ := ihl h.1
    obtain ⟨-, -, hjoinright⟩ := ihr h.2
    have hexpr : (left.asAlternative.join right.asAlternative).expr =
        left.regroup.join .or right.regroup := by rw [hjoinright, hleft]
    refine ⟨⟨hexpr, fun c => ?_⟩, hexpr, fun a => ?_⟩
    · have hother : (left.regroup.join .or right.regroup).isOf .and = false := isOf_join .or
      show Expr.both c.expr (left.asAlternative.join right.asAlternative).expr = _
      rw [hexpr, regroup, join_operand hother]
      rfl
    · rw [asAlternative, Derivation.join_assoc, hjoinright, hjoinleft, regroup, join_assoc]
  | invalid => exact h.elim

/-- As an operand of `AND` an expression needs at most one pair of parentheses more. -/
theorem within_asConjunction (e : Expr) :
    e.asConjunction.Within (Derivation.group e.asAlternative) := by
  have hgroup (c : Derivation .conjunction) : c.Within (Derivation.group (.term c)) :=
    ⟨(Derivation.within_group (.term c)).short, (Derivation.within_group (.term c)).shallow⟩
  cases e with
  | either left right => exact ⟨le_rfl, le_rfl⟩
  | _ => exact hgroup _

/-- What is printed has no more tokens and no deeper parentheses than what was read. -/
theorem within_phrases {k : Nonterminal} (p : Derivation k) :
    p.expr.asAlternative.Within p ∧ (k ≠ .alternative → p.expr.asConjunction.Within p) := by
  induction p with
  | name text => exact ⟨⟨le_rfl, le_rfl⟩, fun _ => ⟨le_rfl, le_rfl⟩⟩
  | laterName text => exact ⟨⟨le_rfl, le_rfl⟩, fun _ => ⟨le_rfl, le_rfl⟩⟩
  | group inner ih =>
    refine ⟨ih.1.trans (Derivation.within_group inner), fun _ => ?_⟩
    exact (within_asConjunction inner.expr).trans ih.1.group
  | factor only ih =>
    have hatom : only.expr.asConjunction.Within only := ih.2 (by decide)
    exact ⟨⟨ih.1.short, ih.1.shallow⟩, fun _ => ⟨hatom.short, hatom.shallow⟩⟩
  | and left right ihl ihr =>
    have hjoined := (ihl.2 (by decide)).and (ihr.2 (by decide))
    exact ⟨⟨hjoined.short, hjoined.shallow⟩, fun _ => hjoined⟩
  | term only ih => exact ⟨⟨ih.1.short, ih.1.shallow⟩, fun h => absurd rfl h⟩
  | or left right ihl ihr => exact ⟨ihl.1.or ihr.1, fun h => absurd rfl h⟩

end Expr

/-! ## The spelling of what is printed -/

namespace Token

/-- The text spells the tokens before anything that does not go on with its last word. -/
def Prints (text : String) (tokens : List Token) : Prop :=
  ∀ rest ts, EndWord rest → Spelled rest ts → Spelled (text.toList ++ rest) (tokens ++ ts)

/-- A character that belongs to no word ends one. -/
theorem endWord_cons {c : Char} (ends : isWordChar c = false ∧ c ≠ '+') (cs : List Char) :
    EndWord (c :: cs) := by
  intro d hd
  obtain rfl : c = d := by simpa using hd
  exact ends

/-- A text that spells tokens before others spells them alone. -/
theorem spelled_of_prints {text : String} {tokens : List Token} (h : Prints text tokens) :
    Spelled text.toList tokens := by
  have hend : EndWord [] := by simp [EndWord]
  have hspelled := h [] [] hend .done
  rw [List.append_nil, List.append_nil] at hspelled
  exact hspelled

/-- A word that is not reserved spells a name. -/
theorem prints_name {name : String} (word : IsWord name.toList)
    (free : ¬ IsReserved name.toList) : Prints name [.name name] := by
  intro rest ts hend hrest
  have hname : SpelledBy name.toList (.name (String.ofList name.toList)) := .name free
  rw [String.ofList_toList] at hname
  exact .word word hname hend hrest

/-- A word with a plus sign spells a name with a later version. -/
theorem prints_laterName {name : String} (word : IsWord name.toList)
    (free : ¬ IsReserved name.toList) : Prints (name ++ "+") [.laterName name] := by
  intro rest ts _ hrest
  have hspelled := Spelled.laterName word free hrest
  rw [String.ofList_toList] at hspelled
  simpa using hspelled

/-- A keyword between blanks is the token between the tokens of its operands. -/
theorem prints_operator {left right keyword : String} {us vs : List Token} {t : Token}
    (hleft : Prints left us) (hright : Prints right vs) (word : IsWord keyword.toList)
    (spelled : SpelledBy keyword.toList t) :
    Prints (left ++ (" " ++ keyword ++ " ") ++ right) (us ++ t :: vs) := by
  intro rest ts hend hrest
  have hblank : Text.isBlank ' ' = true := by decide
  have hspace (cs : List Char) : EndWord (' ' :: cs) := endWord_cons (by decide) cs
  have htail := Spelled.blank hblank (hright rest ts hend hrest)
  have hmiddle := Spelled.blank hblank (Spelled.word word spelled (hspace _) htail)
  have hall := hleft _ _ (hspace _) hmiddle
  simpa using hall

/-- A text in parentheses spells the tokens of a group. -/
theorem prints_group {text : String} {us : List Token} (h : Prints text us) :
    Prints ("(" ++ text ++ ")") (.opening :: us ++ [.closing]) := by
  intro rest ts _ hrest
  have hclosed : EndWord (')' :: rest) := endWord_cons (by decide) rest
  have hall := Spelled.opening (h _ _ hclosed (.closing hrest))
  simpa using hall

/-- The keyword `AND` is a word. -/
theorem isWord_and : IsWord "AND".toList where
  all := List.all_eq_true.1 (by decide)
  first := ⟨'A', rfl, by decide⟩
  last := ⟨'D', rfl, by decide, by decide⟩

/-- The keyword `OR` is a word. -/
theorem isWord_or : IsWord "OR".toList where
  all := List.all_eq_true.1 (by decide)
  first := ⟨'O', rfl, by decide⟩
  last := ⟨'R', rfl, by decide, by decide⟩

/-- What is printed for an expression spells its two derivations, one for each place. -/
theorem prints_phrases {e : Expr} (h : e.Legible) :
    Prints (e.printAs true) e.asConjunction.tokens ∧
      Prints (e.printAs false) e.asAlternative.tokens := by
  induction e with
  | license name => exact ⟨prints_name h.1 h.2, prints_name h.1 h.2⟩
  | orLater name => exact ⟨prints_laterName h.1 h.2, prints_laterName h.1 h.2⟩
  | both left right ihl ihr =>
    have hand := prints_operator (ihl h.1).1 (ihr h.2).1 isWord_and (.and (by decide))
    rw [← Derivation.tokens_join_conjunction] at hand
    exact ⟨hand, hand⟩
  | either left right ihl ihr =>
    have hor := prints_operator (ihl h.1).2 (ihr h.2).2 isWord_or (.or (by decide))
    rw [← Derivation.tokens_join_alternative] at hor
    exact ⟨prints_group hor, hor⟩
  | invalid => exact h.elim

/-- A name that the token holds is a word that is not reserved. -/
def Legible : Token → Prop
  | name text => IsWord text.toList ∧ ¬ IsReserved text.toList
  | laterName text => IsWord text.toList ∧ ¬ IsReserved text.toList
  | _ => True

/-- The token that a word spells is legible. -/
theorem legible_of_spelledBy {w : List Char} {t : Token} (word : IsWord w) (h : SpelledBy w t) :
    t.Legible := by
  cases h with
  | and _ => trivial
  | or _ => trivial
  | name free =>
    show IsWord (String.ofList w).toList ∧ ¬ IsReserved (String.ofList w).toList
    rw [String.toList_ofList]
    exact ⟨word, free⟩

/-- Only legible tokens are spelled. -/
theorem legible_of_spelled {cs : List Char} {ts : List Token} (h : Spelled cs ts) :
    ∀ t ∈ ts, t.Legible := by
  induction h with
  | done => simp
  | blank _ _ ih => exact ih
  | opening _ ih => exact List.forall_mem_cons.2 ⟨trivial, ih⟩
  | closing _ ih => exact List.forall_mem_cons.2 ⟨trivial, ih⟩
  | word isWord spelled _ _ ih =>
    exact List.forall_mem_cons.2 ⟨legible_of_spelledBy isWord spelled, ih⟩
  | @laterName w _ _ isWord free _ ih =>
    refine List.forall_mem_cons.2 ⟨?_, ih⟩
    show IsWord (String.ofList w).toList ∧ ¬ IsReserved (String.ofList w).toList
    rw [String.toList_ofList]
    exact ⟨isWord, free⟩

end Token

/-- An expression is legible if the tokens of its derivation are. -/
theorem legible_expr {k : Nonterminal} (p : Derivation k) (h : ∀ t ∈ p.tokens, t.Legible) :
    p.expr.Legible := by
  induction p with
  | name text => exact h _ List.mem_cons_self
  | laterName text => exact h _ List.mem_cons_self
  | group inner ih =>
    exact ih fun t ht => h t (by simp [Derivation.tokens, ht])
  | factor only ih => exact ih h
  | and left right ihl ihr =>
    exact ⟨ihl fun t ht => h t (by simp [Derivation.tokens, ht]),
      ihr fun t ht => h t (by simp [Derivation.tokens, ht])⟩
  | term only ih => exact ih h
  | or left right ihl ihr =>
    exact ⟨ihl fun t ht => h t (by simp [Derivation.tokens, ht]),
      ihr fun t ht => h t (by simp [Derivation.tokens, ht])⟩

/-- An expression that is read from a text is legible. -/
theorem Derivation.Denotes.legible {p : Derivation .alternative} {s : String} (h : p.Denotes s) :
    p.expr.Legible :=
  legible_expr p (Token.legible_of_spelled h.spelled)

/-- What is read as an expression has legible names. -/
theorem legible_parse {s : String} (h : (parse s).isValid = true) : (parse s).Legible := by
  obtain ⟨p, hp⟩ := exists_denotes_of_isValid h
  rw [parse_eq_of_denotes hp]
  exact hp.legible

/-- The printed form of an expression that was read is within the limits. -/
theorem denotes_print {p : Derivation .alternative} {s : String} (h : p.Denotes s) :
    p.expr.asAlternative.Denotes p.expr.print := by
  have hlegible : p.expr.Legible := h.legible
  have hwithin : p.expr.asAlternative.Within p := (Expr.within_phrases p).1
  have hspelled := Token.spelled_of_prints (Token.prints_phrases hlegible).2
  exact ⟨hspelled, hwithin.short.trans h.short, hwithin.shallow.trans h.shallow⟩

/-- What was read and printed is read again, with its operands grouped to the left: those of the
chain at the top of either operator are regrouped themselves and combined in their order. The
expression is printed the same and approved by the same licenses, and it is the same one exactly if
its operands were grouped to the left before. -/
theorem parse_print (s : String) (h : (parse s).isValid = true) :
    (parse (parse s).print).isValid = true ∧
      parse (parse s).print = (parse s).regroup ∧
      (∀ o : Operator, ∃ first others, (parse s).operands o = first :: others ∧
        parse (parse s).print = (others.map Expr.regroup).foldl o.combine first.regroup) ∧
      (parse (parse s).print).print = (parse s).print ∧
      (∀ approves : String → Bool,
        (parse (parse s).print).isApproved approves = (parse s).isApproved approves) ∧
      (parse (parse s).print = parse s ↔ (parse s).isLeftGrouped = true) := by
  obtain ⟨p, hp⟩ := exists_denotes_of_isValid h
  have hread : parse s = p.expr := parse_eq_of_denotes hp
  have hlegible : p.expr.Legible := hp.legible
  have hexpr : p.expr.asAlternative.expr = p.expr.regroup := (Expr.expr_phrases hlegible).2.1
  have hagain : parse p.expr.print = p.expr.regroup := by
    rw [parse_eq_of_denotes (denotes_print hp), hexpr]
  have hvalid : p.expr.regroup.isValid = true := by
    rw [← hexpr]
    exact Derivation.isValid_expr _
  rw [hread, hagain]
  refine ⟨hvalid, rfl, ?_, ?_, ?_, ?_⟩
  · intro o
    exact Expr.regroup_eq_foldl o p.expr
  · exact Expr.printAs_regroup false p.expr
  · intro approves
    exact Expr.isApproved_regroup approves p.expr
  · exact Expr.regroup_eq_self_iff p.expr

/-- The operands of a chain in parentheses are read into the chain around them. -/
theorem parse_print_of_chain :
    (parse "A AND (B AND C)").isValid = true ∧
      parse (parse "A AND (B AND C)").print =
        .both (.both (.license "A") (.license "B")) (.license "C") ∧
      parse (parse "A AND (B AND C)").print ≠ parse "A AND (B AND C)" := by
  have hread : parse "A AND (B AND C)" =
      .both (.license "A") (.both (.license "B") (.license "C")) := by cbv
  have hvalid : (parse "A AND (B AND C)").isValid = true := by
    rw [hread]
    rfl
  obtain ⟨-, hregroup, -, -, -, hself⟩ := parse_print "A AND (B AND C)" hvalid
  refine ⟨hvalid, ?_, ?_⟩
  · rw [hregroup, hread]
    rfl
  · rw [Ne, hself, hread]
    decide

end Clearance.License
