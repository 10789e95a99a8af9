import Clearance.License.Parser
import Clearance.Proofs.License.Derivation
import Clearance.Proofs.License.Spelling
import Mathlib

/-!
# The parser and the grammar

Reading a license expression finds its derivation if there is one within the limits, and refuses
the text otherwise (`parse_eq_of_denotes`).

Both levels of operators are read by one loop, so what is to be shown of it is said once:
`Chained` is what such a loop reads, `chain_sound` says that it reads nothing else, and
`chain_complete` that it reads all of it where the next token is not one that goes on with the
phrase.
-/

set_option autoImplicit false

namespace Clearance.License

namespace Parser

/-! ## Operands with an operator between them -/

/-- The tokens are operands with `operator` between them, and the expression combines these to the
left. -/
inductive Chained (operand : List Token → Expr → Prop) (operator : Token)
    (combine : Expr → Expr → Expr) : List Token → Expr → Prop where
  | single {ts : List Token} {e : Expr} (only : operand ts e) :
    Chained operand operator combine ts e
  | more {ts us : List Token} {left right : Expr}
    (before : Chained operand operator combine ts left) (last : operand us right) :
    Chained operand operator combine (ts ++ operator :: us) (combine left right)

section chain

variable {operand : Phrase} {operator : Token} {combine : Expr → Expr → Expr}
  {Operand : List Token → Expr → Prop}

/-- Whatever a phrase reads is at the start of the tokens and of the right kind. -/
def Sound (phrase : Phrase) (Kind : List Token → Expr → Prop) : Prop :=
  ∀ ts e rest, phrase ts = some (e, rest) → ∃ us, ts = us ++ rest ∧ Kind us e

/-- A phrase reads all tokens of its kind, where what follows them lets it stop. -/
def Complete (phrase : Phrase) (Kind : List Token → Expr → Prop) (Stop : List Token → Prop) :
    Prop :=
  ∀ us e rest, Kind us e → Stop rest → phrase (us ++ rest) = some (e, rest)

/-- What is read behind the operands so far makes the chain longer. -/
theorem chainTail_sound (sound : Sound operand Operand) (rounds : Nat) {left : Expr}
    {before ts : List Token} (read : Chained Operand operator combine before left) {e : Expr}
    {rest : List Token} (h : chainTail operand operator combine rounds left ts = some (e, rest)) :
    ∃ us, before ++ ts = us ++ rest ∧ Chained Operand operator combine us e := by
  induction rounds generalizing left before ts with
  | zero =>
    simp only [chainTail, Option.some.injEq, Prod.mk.injEq] at h
    obtain ⟨rfl, rfl⟩ := h
    exact ⟨before, rfl, read⟩
  | succ rounds ih =>
    cases ts with
    | nil =>
      simp only [chainTail, Option.some.injEq, Prod.mk.injEq] at h
      obtain ⟨rfl, rfl⟩ := h
      exact ⟨before, rfl, read⟩
    | cons t ts =>
      rw [chainTail] at h
      split at h
      · next hoperator =>
        split at h
        · cases h
        · next right tail hright =>
          obtain ⟨us, rfl, hus⟩ := sound ts right tail hright
          obtain ⟨vs, hvs, hread⟩ := ih (.more read hus) h
          refine ⟨vs, ?_, hread⟩
          rw [← hvs, hoperator]
          simp
      · simp only [Option.some.injEq, Prod.mk.injEq] at h
        obtain ⟨rfl, rfl⟩ := h
        exact ⟨before, rfl, read⟩

/-- A chain reads operands with operators between them. -/
theorem chain_sound (sound : Sound operand Operand) :
    Sound (chain operand operator combine) (Chained Operand operator combine) := by
  intro ts e rest h
  unfold chain at h
  split at h
  · cases h
  · next first tail hfirst =>
    obtain ⟨us, rfl, hus⟩ := sound ts first tail hfirst
    exact chainTail_sound sound tail.length (.single hus) h

/-- As many rounds as there are tokens suffice, and more of them change nothing. -/
theorem chainTail_rounds (sound : Sound operand Operand) {rounds : Nat} {ts : List Token}
    (enough : ts.length ≤ rounds) (left : Expr) :
    chainTail operand operator combine rounds left ts =
      chainTail operand operator combine ts.length left ts := by
  induction rounds using Nat.strong_induction_on generalizing left ts with
  | _ rounds ih =>
    cases ts with
    | nil => cases rounds <;> rfl
    | cons t ts =>
      cases rounds with
      | zero => simp at enough
      | succ rounds =>
        have hts : ts.length ≤ rounds := by simpa using enough
        rw [List.length_cons, chainTail, chainTail]
        split
        · split
          · rfl
          · next right rest hright =>
            obtain ⟨us, hus, -⟩ := sound ts right rest hright
            have hrest : rest.length ≤ ts.length := by
              rw [hus, List.length_append]
              omega
            rw [ih rounds (by omega) (hrest.trans hts) _]
            by_cases hlt : ts.length < rounds + 1
            · rw [ih ts.length hlt hrest _]
            · omega
        · rfl

/-- Where a chain has been read, the loop goes on with what follows it. -/
theorem chain_append (sound : Sound operand Operand) {Stop : List Token → Prop}
    (complete : Complete operand Operand Stop) (stop : ∀ rest, Stop (operator :: rest))
    {us : List Token} {e : Expr} (read : Chained Operand operator combine us e)
    {rest : List Token} (h : Stop rest) :
    chain operand operator combine (us ++ rest) =
      chainTail operand operator combine rest.length e rest := by
  induction read generalizing rest with
  | single only =>
    unfold chain
    rw [complete _ _ rest only h]
  | @more ts us left right before last ih =>
    have hlength : rest.length ≤ (us ++ rest).length := by simp
    rw [List.append_assoc, List.cons_append, ih (stop _), List.length_cons, chainTail,
      if_pos rfl, complete us right rest last h]
    exact chainTail_rounds sound hlength _

/-- A chain is read up to its end, where the next token is not its operator. -/
theorem chain_complete (sound : Sound operand Operand) {Stop : List Token → Prop}
    (complete : Complete operand Operand Stop) (stop : ∀ rest, Stop (operator :: rest)) :
    Complete (chain operand operator combine) (Chained Operand operator combine)
      (fun rest => Stop rest ∧ rest.head? ≠ some operator) := by
  rintro us e rest read ⟨hstop, hend⟩
  rw [chain_append sound complete stop read hstop]
  cases rest with
  | nil => rfl
  | cons t rest =>
    have hoperator : ¬ t = operator := by simpa using hend
    rw [List.length_cons, chainTail, if_neg hoperator]

end chain

/-! ## Phrases of the grammar -/

/-- The expression has a derivation from the tokens with no more than `depth` nested parentheses. -/
def Derived (depth : Nat) (k : Nonterminal) (ts : List Token) (e : Expr) : Prop :=
  ∃ p : Derivation k, p.tokens = ts ∧ p.expr = e ∧ p.depth ≤ depth

/-- The expression has a derivation that can stand in parentheses. -/
def DerivedInside (depth : Nat) (ts : List Token) (e : Expr) : Prop :=
  ∃ p : Derivation .alternative, p.tokens = ts ∧ p.expr = e ∧ p.depth < depth

/-- What reads the inside of parentheses. -/
def inside : (depth : Nat) → Phrase
  | 0 => fun _ => none
  | depth + 1 => alternative depth

/-- What reads a conjunction. -/
def conjunction (depth : Nat) : Phrase := chain (atom (inside depth)) .and .both

/-- An alternative is a chain of conjunctions. -/
theorem alternative_eq_chain (depth : Nat) :
    alternative depth = chain (conjunction depth) .or .either := by
  cases depth <;> rfl

/-- The tokens of a conjunction are a chain of atoms. -/
theorem chained_of_conjunction {depth : Nat} :
    ∀ p : Derivation .conjunction, p.depth ≤ depth →
      Chained (Derived depth .atom) .and .both p.tokens p.expr
  | .factor only, h => .single ⟨only, rfl, rfl, h⟩
  | .and left right, h =>
    .more (chained_of_conjunction left (le_trans (le_max_left _ _) h))
      ⟨right, rfl, rfl, le_trans (le_max_right _ _) h⟩

/-- The tokens of an alternative are a chain of conjunctions. -/
theorem chained_of_alternative {depth : Nat} :
    ∀ p : Derivation .alternative, p.depth ≤ depth →
      Chained (Derived depth .conjunction) .or .either p.tokens p.expr
  | .term only, h => .single ⟨only, rfl, rfl, h⟩
  | .or left right, h =>
    .more (chained_of_alternative left (le_trans (le_max_left _ _) h))
      ⟨right, rfl, rfl, le_trans (le_max_right _ _) h⟩

/-- A conjunction is atoms with `AND` between them. -/
theorem chained_atom_iff {depth : Nat} {ts : List Token} {e : Expr} :
    Chained (Derived depth .atom) .and .both ts e ↔ Derived depth .conjunction ts e := by
  constructor
  · intro h
    induction h with
    | single only =>
      obtain ⟨p, rfl, rfl, hp⟩ := only
      exact ⟨.factor p, rfl, rfl, hp⟩
    | more before last ih =>
      obtain ⟨l, rfl, rfl, hl⟩ := ih
      obtain ⟨r, rfl, rfl, hr⟩ := last
      exact ⟨.and l r, rfl, rfl, max_le hl hr⟩
  · rintro ⟨p, rfl, rfl, hp⟩
    exact chained_of_conjunction p hp

/-- An alternative is conjunctions with `OR` between them. -/
theorem chained_conjunction_iff {depth : Nat} {ts : List Token} {e : Expr} :
    Chained (Derived depth .conjunction) .or .either ts e ↔ Derived depth .alternative ts e := by
  constructor
  · intro h
    induction h with
    | single only =>
      obtain ⟨p, rfl, rfl, hp⟩ := only
      exact ⟨.term p, rfl, rfl, hp⟩
    | more before last ih =>
      obtain ⟨l, rfl, rfl, hl⟩ := ih
      obtain ⟨r, rfl, rfl, hr⟩ := last
      exact ⟨.or l r, rfl, rfl, max_le hl hr⟩
  · rintro ⟨p, rfl, rfl, hp⟩
    exact chained_of_alternative p hp

/-- What may follow an alternative: no operator. -/
def Stop (rest : List Token) : Prop := rest.head? ≠ some .and ∧ rest.head? ≠ some .or

section level

variable {depth : Nat}

/-- What is read as an atom is derived as one. -/
theorem sound_atom (sound : Sound (inside depth) (DerivedInside depth)) :
    Sound (atom (inside depth)) (Derived depth .atom) := by
  intro ts e rest h
  unfold atom at h
  split at h
  · next text tail =>
    simp only [Option.some.injEq, Prod.mk.injEq] at h
    obtain ⟨rfl, rfl⟩ := h
    exact ⟨[.name text], rfl, .name text, rfl, rfl, Nat.zero_le depth⟩
  · next text tail =>
    simp only [Option.some.injEq, Prod.mk.injEq] at h
    obtain ⟨rfl, rfl⟩ := h
    exact ⟨[.laterName text], rfl, .laterName text, rfl, rfl, Nat.zero_le depth⟩
  · next tail =>
    split at h
    · next e' rest' hinside =>
      simp only [Option.some.injEq, Prod.mk.injEq] at h
      obtain ⟨rfl, rfl⟩ := h
      obtain ⟨us, rfl, p, rfl, rfl, hp⟩ := sound tail e' (.closing :: rest') hinside
      refine ⟨.opening :: p.tokens ++ [.closing], by simp, .group p, rfl, rfl, ?_⟩
      exact hp
    · cases h
  · cases h

/-- Every atom is read, whatever follows it. -/
theorem complete_atom (complete : Complete (inside depth) (DerivedInside depth) Stop) :
    Complete (atom (inside depth)) (Derived depth .atom) (fun _ => True) := by
  rintro us e rest ⟨p, rfl, rfl, hp⟩ -
  cases p with
  | name text => rfl
  | laterName text => rfl
  | group inner =>
    have hinner := complete inner.tokens inner.expr (.closing :: rest) ⟨inner, rfl, rfl, hp⟩
      (by simp [Stop])
    rw [Derivation.tokens_group_append, atom, hinner]
    rfl

/-- What is read as a conjunction is derived as one. -/
theorem sound_conjunction (sound : Sound (inside depth) (DerivedInside depth)) :
    Sound (conjunction depth) (Derived depth .conjunction) := by
  intro ts e rest h
  obtain ⟨us, hus, hread⟩ := chain_sound (sound_atom sound) ts e rest h
  exact ⟨us, hus, chained_atom_iff.1 hread⟩

/-- Every conjunction is read, where no `AND` follows it. -/
theorem complete_conjunction (sound : Sound (inside depth) (DerivedInside depth))
    (complete : Complete (inside depth) (DerivedInside depth) Stop) :
    Complete (conjunction depth) (Derived depth .conjunction)
      (fun rest => rest.head? ≠ some .and) := by
  intro us e rest h hend
  exact chain_complete (sound_atom sound) (complete_atom complete) (fun _ => trivial) us e rest
    (chained_atom_iff.2 h) ⟨trivial, hend⟩

/-- What is read as an alternative is derived as one. -/
theorem sound_alternative (sound : Sound (inside depth) (DerivedInside depth)) :
    Sound (alternative depth) (Derived depth .alternative) := by
  intro ts e rest h
  rw [alternative_eq_chain] at h
  obtain ⟨us, hus, hread⟩ := chain_sound (sound_conjunction sound) ts e rest h
  exact ⟨us, hus, chained_conjunction_iff.1 hread⟩

/-- Every alternative is read, where no operator follows it. -/
theorem complete_alternative (sound : Sound (inside depth) (DerivedInside depth))
    (complete : Complete (inside depth) (DerivedInside depth) Stop) :
    Complete (alternative depth) (Derived depth .alternative) Stop := by
  intro us e rest h hend
  rw [alternative_eq_chain]
  exact chain_complete (sound_conjunction sound) (complete_conjunction sound complete)
    (fun _ => by simp) us e rest (chained_conjunction_iff.2 h) hend

end level

/-- The inside of parentheses is read exactly if it has a derivation of less depth. -/
theorem sound_and_complete_inside (depth : Nat) :
    Sound (inside depth) (DerivedInside depth) ∧
      Complete (inside depth) (DerivedInside depth) Stop := by
  induction depth with
  | zero =>
    constructor
    · intro ts e rest h
      simp [inside] at h
    · rintro us e rest ⟨p, -, -, hp⟩
      exact absurd hp (Nat.not_lt_zero _)
  | succ depth ih =>
    constructor
    · intro ts e rest h
      obtain ⟨us, hus, p, htokens, hexpr, hp⟩ := sound_alternative ih.1 ts e rest h
      exact ⟨us, hus, p, htokens, hexpr, Nat.lt_succ_of_le hp⟩
    · rintro us e rest ⟨p, htokens, hexpr, hp⟩ hend
      exact complete_alternative ih.1 ih.2 us e rest ⟨p, htokens, hexpr, Nat.le_of_lt_succ hp⟩ hend

/-- Tokens make an expression exactly if it has a derivation from them within the limits. -/
theorem ofTokens?_eq_some_iff {ts : List Token} {e : Expr} :
    ofTokens? ts = some e ↔ ts.length ≤ maxTokens ∧ Derived maxDepth .alternative ts e := by
  obtain ⟨hsound, hcomplete⟩ := sound_and_complete_inside maxDepth
  unfold ofTokens?
  split
  · next hlong => simp [Nat.not_le.2 hlong]
  · next hshort =>
    have hlength : ts.length ≤ maxTokens := Nat.not_lt.1 hshort
    simp only [hlength, true_and]
    constructor
    · intro h
      split at h
      · next e' hread =>
        obtain rfl : e' = e := Option.some.inj h
        obtain ⟨us, hus, hderived⟩ := sound_alternative hsound ts e' [] hread
        rw [hus, List.append_nil]
        exact hderived
      · cases h
    · intro h
      have hread := complete_alternative hsound hcomplete ts e [] h (by simp [Stop])
      rw [List.append_nil] at hread
      rw [hread]

end Parser

/-! ## Texts -/

/-- The text spells the tokens of the derivation, and both are within the limits. -/
structure Derivation.Denotes (p : Derivation .alternative) (s : String) : Prop where
  spelled : Token.Spelled s.toList p.tokens
  short : p.tokens.length ≤ maxTokens
  shallow : p.depth ≤ maxDepth

/-- Text with a derivation is read as what the derivation stands for. -/
theorem parse_eq_of_denotes {p : Derivation .alternative} {s : String} (h : p.Denotes s) :
    parse s = p.expr := by
  have htokens : Token.ofChars? s.toList = some p.tokens := Token.ofChars?_eq_some_iff.2 h.spelled
  have hexpr : Parser.ofTokens? p.tokens = some p.expr :=
    Parser.ofTokens?_eq_some_iff.2 ⟨h.short, p, rfl, rfl, h.shallow⟩
  rw [parse, htokens, Option.bind_some, hexpr, Option.getD_some]

/-- Text that is read as an expression has a derivation. -/
theorem exists_denotes_of_isValid {s : String} (h : (parse s).isValid = true) :
    ∃ p : Derivation .alternative, p.Denotes s := by
  unfold parse at h
  cases htokens : Token.ofChars? s.toList with
  | none => simp [htokens, Expr.isValid] at h
  | some ts =>
    cases hexpr : Parser.ofTokens? ts with
    | none => simp [htokens, hexpr, Expr.isValid] at h
    | some e =>
      obtain ⟨hshort, p, rfl, -, hdepth⟩ := Parser.ofTokens?_eq_some_iff.1 hexpr
      exact ⟨p, Token.ofChars?_eq_some_iff.1 htokens, hshort, hdepth⟩

/-- There is one expression that is not valid. -/
theorem Expr.eq_invalid {e : Expr} (h : ¬ e.isValid = true) : e = .invalid := by
  cases e with
  | invalid => rfl
  | _ => exact absurd rfl h

/-- Text that spells the tokens of a derivation is read as what the derivation stands for, or
refused where the derivation is beyond the limits. -/
theorem parse_eq_of_spelled {p : Derivation .alternative} {s : String}
    (h : Token.Spelled s.toList p.tokens) :
    parse s = if p.tokens.length ≤ maxTokens ∧ p.depth ≤ maxDepth then p.expr else .invalid := by
  split
  · next hlimits => exact parse_eq_of_denotes ⟨h, hlimits.1, hlimits.2⟩
  · next hlimits =>
    apply Expr.eq_invalid
    intro hvalid
    -- The text spells no other derivation that could be within the limits.
    obtain ⟨q, hq⟩ := exists_denotes_of_isValid hvalid
    obtain rfl : q = p := Derivation.eq_of_tokens_eq (hq.spelled.eq_tokens h)
    exact hlimits ⟨hq.short, hq.shallow⟩

/-- A text is read as an expression exactly if some derivation of at most 1024 tokens, with
parentheses nested at most 64 deep, has its tokens spelled by the text. The text then spells no
other derivation, and the expression is what this one stands for. -/
theorem parse_iff_derivation (s : String) :
    ((parse s).isValid = true ↔
      ∃ p : Derivation .alternative,
        Token.Spelled s.toList p.tokens ∧ p.tokens.length ≤ 1024 ∧ p.depth ≤ 64) ∧
    ∀ p : Derivation .alternative,
      Token.Spelled s.toList p.tokens → p.tokens.length ≤ 1024 → p.depth ≤ 64 →
        parse s = p.expr ∧
          ∀ q : Derivation .alternative, Token.Spelled s.toList q.tokens → q = p := by
  refine ⟨⟨?_, ?_⟩, ?_⟩
  · intro h
    obtain ⟨p, hp⟩ := exists_denotes_of_isValid h
    exact ⟨p, hp.spelled, hp.short, hp.shallow⟩
  · rintro ⟨p, hspelled, hshort, hshallow⟩
    have hparse : parse s = p.expr := parse_eq_of_denotes ⟨hspelled, hshort, hshallow⟩
    rw [hparse]
    exact p.isValid_expr
  · intro p hspelled hshort hshallow
    refine ⟨parse_eq_of_denotes ⟨hspelled, hshort, hshallow⟩, fun q hq => ?_⟩
    exact Derivation.eq_of_tokens_eq (hq.eq_tokens hspelled)

/-- Keywords in small letters, and parentheses that leave no trace in the expression. -/
theorem parse_iff_derivation_of_group :
    parse "a or (MIT+ and B)" = .either (.license "a") (.both (.orLater "MIT") (.license "B")) := by
  have hspelled : Token.Spelled "a or (MIT+ and B)".toList
      [.name "a", .or, .opening, .laterName "MIT", .and, .name "B", .closing] :=
    Token.ofChars?_eq_some_iff.1 (by cbv)
  let p : Derivation .alternative :=
    .or (.term (.factor (.name "a")))
      (.factor (.group (.term (.and (.factor (.laterName "MIT")) (.name "B")))))
  exact ((parse_iff_derivation "a or (MIT+ and B)").2 p hspelled (by decide) (by decide)).1

end Clearance.License
