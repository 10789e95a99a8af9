import Clearance.Proofs.License.FullForm
import Clearance.Proofs.License.Layout
import Clearance.Proofs.License.Visibility

/-!
# The shape of what is read

Whoever walks over an expression that was read relies on three things: it holds nothing invalid, its
names are written as names are, and it is not too deep for a recursion.

* A text that is read makes a legible expression, and the operands of a legible expression are
  legible again, down to the end of every path (`Expr.Path.legible`).
* An operator stands between any two names, so 1024 tokens make at most 512 names
  (`Derivation.leaves_expr_le`).
* Every combination has a name beside any path through it, so there are fewer combinations on a path
  than names in the expression (`Expr.height_lt_leaves`).

The names are the words of the text that are not reserved, in their order
(`Token.identifiers_of_spelled`).
-/

set_option autoImplicit false

namespace Clearance.License

/-! ## Words of a text -/

namespace Token

/-- The words of a text: its longest runs of word characters, from left to right. -/
def words (cs : List Char) : List (List Char) :=
  (cs.splitOnP fun c => !isWordChar c).filter fun w => !w.isEmpty

instance (w : List Char) : Decidable (IsReserved w) := inferInstanceAs (Decidable (_ ∨ _ ∨ _))

/-- The words of a text that are not reserved, from left to right. -/
def identifiers (cs : List Char) : List String :=
  ((words cs).filter fun w => ¬ IsReserved w).map String.ofList

/-- The name that a token holds. -/
def name? : Token → Option String
  | name text => some text
  | laterName text => some text
  | _ => none

/-- A text has the words of its parts where no word goes across the cut. -/
theorem identifiers_append_cons {c : Char} (other : isWordChar c = false) (front back : List Char) :
    identifiers (front ++ c :: back) = identifiers front ++ identifiers back := by
  unfold identifiers words
  rw [List.splitOnP_append_cons front back (by rw [other]; rfl), List.filter_append,
    List.filter_append, List.map_append]

/-- A character that belongs to no word adds no identifier. -/
theorem identifiers_cons {c : Char} (other : isWordChar c = false) (cs : List Char) :
    identifiers (c :: cs) = identifiers cs :=
  identifiers_append_cons other [] cs

/-- A word is its own only identifier, and a reserved one has none. -/
theorem identifiers_of_isWord {w : List Char} (isWord : IsWord w) :
    identifiers w = if IsReserved w then [] else [String.ofList w] := by
  have hwhole : w.splitOnP (fun c => !isWordChar c) = [w] :=
    List.splitOnP_eq_singleton fun c hc => by rw [isWord.all c hc]; rfl
  have hne : w.isEmpty = false := by
    obtain ⟨c, hfirst, -⟩ := isWord.first
    cases w with
    | nil => cases hfirst
    | cons => rfl
  have hwords : words w = [w] := by simp [words, hwhole, hne]
  rw [identifiers, hwords]
  split
  · next hreserved => simp [hreserved]
  · next hfree => simp [hfree]

/-- A word is the first one of the text where it does not go on. -/
theorem identifiers_append {w cs : List Char} (isWord : IsWord w)
    (stop : ∀ c, cs.head? = some c → isWordChar c = false) :
    identifiers (w ++ cs) = (if IsReserved w then [] else [String.ofList w]) ++ identifiers cs := by
  cases cs with
  | nil =>
    rw [List.append_nil, identifiers_of_isWord isWord]
    exact (List.append_nil _).symm
  | cons c cs =>
    have hstop : isWordChar c = false := stop c rfl
    rw [identifiers_append_cons hstop, identifiers_of_isWord isWord, identifiers_cons hstop]

/-- The names in the tokens of a text are its words that are not reserved. -/
theorem identifiers_of_spelled {cs : List Char} {ts : List Token} (h : Spelled cs ts) :
    identifiers cs = ts.filterMap name? := by
  induction h with
  | done => rfl
  | blank isBlank _ ih => rw [identifiers_cons (endWord_of_isBlank isBlank).1, ih]
  | opening _ ih =>
    rw [identifiers_cons (by decide), ih]
    rfl
  | closing _ ih =>
    rw [identifiers_cons (by decide), ih]
    rfl
  | @word w cs t ts isWord spelled longest _ ih =>
    -- A keyword is a word of the text as well, but holds no name.
    have hhere : (if IsReserved w then [] else [String.ofList w]) = t.name?.toList := by
      cases spelled with
      | and keyword => exact if_pos (.inl keyword)
      | or keyword => exact if_pos (.inr (.inl keyword))
      | name free => exact if_neg free
    rw [identifiers_append isWord fun c hc => (longest c hc).1, hhere, ih]
    cases hname : t.name? <;> simp [hname]
  | @laterName w cs ts isWord free _ ih =>
    have hplus : isWordChar '+' = false := by decide
    rw [identifiers_append_cons hplus, identifiers_of_isWord isWord, if_neg free, ih]
    rfl

end Token

/-! ## Names and sizes of derivations -/

namespace Derivation

/-- The names in an expression are those in its tokens, in their order. -/
theorem names_expr {k : Nonterminal} (p : Derivation k) :
    p.expr.names = p.tokens.filterMap Token.name? := by
  induction p with
  | name text => rfl
  | laterName text => rfl
  | group inner ih =>
    rw [expr, tokens, List.filterMap_append, ih]
    exact (List.append_nil _).symm
  | factor only ih => exact ih
  | and left right ihl ihr =>
    rw [expr, tokens, Expr.names, List.filterMap_append, ihl, ihr]
    rfl
  | term only ih => exact ih
  | or left right ihl ihr =>
    rw [expr, tokens, Expr.names, List.filterMap_append, ihl, ihr]
    rfl

/-- An operator stands between any two names. -/
theorem leaves_expr_le {k : Nonterminal} (p : Derivation k) :
    2 * p.expr.leaves ≤ p.tokens.length + 1 := by
  induction p with
  | name text => exact le_rfl
  | laterName text => exact le_rfl
  | group inner ih =>
    simp only [expr, tokens, List.cons_append, List.length_cons, List.length_append]
    omega
  | factor only ih => exact ih
  | and left right ihl ihr =>
    simp only [expr, tokens, Expr.leaves, List.length_append, List.length_cons]
    omega
  | term only ih => exact ih
  | or left right ihl ihr =>
    simp only [expr, tokens, Expr.leaves, List.length_append, List.length_cons]
    omega

end Derivation

/-! ## Paths -/

namespace Expr

/-- The operands of a combination. -/
def parts : Expr → List Expr
  | both left right => [left, right]
  | either left right => [left, right]
  | _ => []

/-- Both or either of two operands. -/
def isCombination : Expr → Bool
  | both _ _ => true
  | either _ _ => true
  | _ => false

/-- The nodes on the way from an expression down to some node in it. -/
inductive Path : Expr → List Expr → Prop where
  | here (e : Expr) : Path e [e]
  | into {e part : Expr} {nodes : List Expr} (operand : part ∈ e.parts) (rest : Path part nodes) :
    Path e (e :: nodes)

/-- An expression has more names than levels. -/
theorem height_lt_leaves (e : Expr) : e.height < e.leaves := by
  induction e with
  | both left right ihl ihr =>
    rw [height, leaves]
    omega
  | either left right ihl ihr =>
    rw [height, leaves]
    omega
  | _ => exact Nat.zero_lt_one

/-- An operand is lower than the combination. -/
theorem height_lt_of_mem_parts {e part : Expr} (h : part ∈ e.parts) : part.height < e.height := by
  cases e with
  | both left right =>
    rw [height]
    rcases List.mem_pair.1 h with rfl | rfl <;> omega
  | either left right =>
    rw [height]
    rcases List.mem_pair.1 h with rfl | rfl <;> omega
  | _ => cases h

/-- The operands of a legible combination are legible. -/
theorem legible_of_mem_parts {e part : Expr} (h : e.Legible) (operand : part ∈ e.parts) :
    part.Legible := by
  cases e with
  | both left right =>
    rcases List.mem_pair.1 operand with rfl | rfl
    · exact h.1
    · exact h.2
  | either left right =>
    rcases List.mem_pair.1 operand with rfl | rfl
    · exact h.1
    · exact h.2
  | _ => cases operand

/-- Every step of a path goes down. -/
theorem Path.length_le {e : Expr} {nodes : List Expr} (h : Path e nodes) :
    nodes.length ≤ e.height + 1 := by
  induction h with
  | here e => exact Nat.le_add_left 1 _
  | into operand _ ih =>
    have hlower := height_lt_of_mem_parts operand
    rw [List.length_cons]
    omega

/-- A combination is higher than its operands. -/
theorem Path.countP_isCombination_le {e : Expr} {nodes : List Expr} (h : Path e nodes) :
    nodes.countP isCombination ≤ e.height := by
  induction h with
  | here e => cases e <;> simp [isCombination, height]
  | into operand _ ih =>
    have hlower := height_lt_of_mem_parts operand
    rw [List.countP_cons]
    split <;> omega

/-- All nodes of a legible expression are legible. -/
theorem Path.legible {e : Expr} {nodes : List Expr} (h : Path e nodes) (legible : e.Legible) :
    ∀ node ∈ nodes, node.Legible := by
  induction h with
  | here e => exact List.forall_mem_singleton.2 legible
  | into operand _ ih =>
    exact List.forall_mem_cons.2 ⟨legible, ih (legible_of_mem_parts legible operand)⟩

end Expr

/-! ## What is read -/

/-- How the names in an expression are written. -/
structure IsLicenseName (name : String) : Prop where
  nonempty : name ≠ ""
  all : ∀ c ∈ name.toList, c.isAlphanum = true ∨ c = '-' ∨ c = '.'
  first : ∃ c, name.toList.head? = some c ∧ c.isAlphanum = true
  last : ∃ c, name.toList.getLast? = some c ∧ c.isAlphanum = true
  free : name.toUpper ∉ ["AND", "OR", "WITH"]

/-- An identifier is written as a license name. -/
theorem isLicenseName_of_isIdentifier {name : String} (h : IsIdentifier name) :
    IsLicenseName name where
  nonempty := by
    rintro rfl
    obtain ⟨c, hfirst, -⟩ := h.1.first
    cases hfirst
  all c hc := by simpa [Token.isWordChar, or_assoc] using h.1.all c hc
  first := h.1.first
  last := by
    obtain ⟨c, hlast, hend⟩ := h.1.last
    have hchar := h.1.all c (List.mem_of_getLast? hlast)
    exact ⟨c, hlast, (Token.isWordEnd_iff hchar).2 hend⟩
  free hmem := by
    have hspells (keyword : String) (heq : name.toUpper = keyword) :
        Token.spells name.toList keyword = true := by
      rw [Token.spells, beq_iff_eq, ← heq, String.toUpper, String.toList_map]
    simp only [List.mem_cons, List.not_mem_nil, or_false] at hmem
    exact h.2 (hmem.imp (hspells _) (.imp (hspells _) (hspells _)))

/-- The names of the leaves of a legible expression. -/
theorem isLicenseName_of_legible {e : Expr} {name : String} (h : e.Legible)
    (leaf : e = .license name ∨ e = .orLater name) : IsLicenseName name := by
  rcases leaf with rfl | rfl
  · exact isLicenseName_of_isIdentifier h
  · exact isLicenseName_of_isIdentifier h

/-- On every path in an expression that was read no node is invalid, every name is a word of
letters, digits, `-` and `.` that starts and ends with a letter or a digit and is no keyword in any
case, and there are at most 511 combinations, so at most 512 nodes. The expression has at most 512
leaves, and its names are from left to right the identifiers of the text. -/
theorem parse_wellShaped (s : String) (h : parse s ≠ .invalid) :
    (∀ nodes, (parse s).Path nodes →
      (∀ node ∈ nodes, node ≠ .invalid ∧
        ∀ name, node = .license name ∨ node = .orLater name → IsLicenseName name) ∧
      nodes.countP Expr.isCombination ≤ 511 ∧ nodes.length ≤ 512) ∧
    (parse s).leaves ≤ 512 ∧
    (parse s).names = Token.identifiers s.toList := by
  have hvalid : (parse s).isValid = true := by
    by_contra hrefused
    exact h (Expr.eq_invalid hrefused)
  obtain ⟨p, hp⟩ := exists_denotes_of_isValid hvalid
  have hread : parse s = p.expr := parse_eq_of_denotes hp
  have hleaves : (parse s).leaves ≤ 512 := by
    have htokens : p.tokens.length ≤ 1024 := hp.short
    have hnames := p.leaves_expr_le
    rw [hread]
    omega
  have hheight := (parse s).height_lt_leaves
  refine ⟨fun nodes hpath => ⟨fun node hnode => ?_, ?_, ?_⟩, hleaves, ?_⟩
  · have hlegible : node.Legible := hpath.legible (legible_parse hvalid) node hnode
    refine ⟨?_, fun name => isLicenseName_of_legible hlegible⟩
    rintro rfl
    exact hlegible
  · have hcount := hpath.countP_isCombination_le
    omega
  · have hlength := hpath.length_le
    omega
  · rw [hread, p.names_expr, Token.identifiers_of_spelled hp.spelled]

/-- Keywords are no names, in small letters either, and neither is the `+` behind a name. -/
theorem parse_wellShaped_of_nested :
    parse "(a-1.0 or b+) And C" ≠ .invalid ∧
      (parse "(a-1.0 or b+) And C").names = ["a-1.0", "b", "C"] ∧ IsLicenseName "a-1.0" := by
  have hread : parse "(a-1.0 or b+) And C" =
      .both (.either (.license "a-1.0") (.orLater "b")) (.license "C") := by cbv
  have hvalid : parse "(a-1.0 or b+) And C" ≠ .invalid := by
    rw [hread]
    decide
  have hidentifiers : Token.identifiers "(a-1.0 or b+) And C".toList = ["a-1.0", "b", "C"] := by cbv
  have hpath : (parse "(a-1.0 or b+) And C").Path
      [.both (.either (.license "a-1.0") (.orLater "b")) (.license "C"),
        .either (.license "a-1.0") (.orLater "b"), .license "a-1.0"] := by
    rw [hread]
    exact .into (by decide) (.into (by decide) (.here _))
  obtain ⟨hpaths, -, hnames⟩ := parse_wellShaped "(a-1.0 or b+) And C" hvalid
  obtain ⟨hnodes, -, -⟩ := hpaths _ hpath
  exact ⟨hvalid, hnames.trans hidentifiers,
    (hnodes (.license "a-1.0") (by decide)).2 "a-1.0" (Or.inl rfl)⟩

end Clearance.License
