import Clearance.License.Token
import Mathlib

/-!
# How tokens are spelled

The spelling of a license expression told without a reading order of its own. A text is cut into
blanks, parentheses and words, where a word is a longest run of word characters, and each piece
that is not a blank spells one token.

`ofChars?_eq_some_iff`: reading a text finds exactly the tokens that it spells. So the tokens of a
text are determined by it, and a text that spells none is refused.
-/

set_option autoImplicit false

namespace Clearance.License.Token

/-- ASCII letters, digits, `-` and `.`, where the first character is a letter or a digit and the
last one is neither `-` nor `.`. -/
structure IsWord (w : List Char) : Prop where
  all : ∀ c ∈ w, isWordChar c = true
  first : ∃ c, w.head? = some c ∧ c.isAlphanum = true
  last : ∃ c, w.getLast? = some c ∧ c ≠ '-' ∧ c ≠ '.'

/-- The words that are no names, in any case. -/
def IsReserved (w : List Char) : Prop :=
  spells w "AND" = true ∨ spells w "OR" = true ∨ spells w "WITH" = true

/-- The token that a word spells where no `+` follows it. -/
inductive SpelledBy (w : List Char) : Token → Prop where
  | and (keyword : spells w "AND" = true) : SpelledBy w .and
  | or (keyword : spells w "OR" = true) : SpelledBy w .or
  | name (free : ¬ IsReserved w) : SpelledBy w (.name (String.ofList w))

/-- A word that stands before these characters is a longest run, and no `+` follows it. -/
def EndWord (cs : List Char) : Prop := ∀ c, cs.head? = some c → isWordChar c = false ∧ c ≠ '+'

/-- The characters spell the tokens, with blanks anywhere between them. -/
inductive Spelled : List Char → List Token → Prop where
  | done : Spelled [] []
  | blank {c : Char} {cs : List Char} {ts : List Token} (isBlank : Text.isBlank c = true)
    (rest : Spelled cs ts) : Spelled (c :: cs) ts
  | opening {cs : List Char} {ts : List Token} (rest : Spelled cs ts) :
    Spelled ('(' :: cs) (.opening :: ts)
  | closing {cs : List Char} {ts : List Token} (rest : Spelled cs ts) :
    Spelled (')' :: cs) (.closing :: ts)
  | word {w cs : List Char} {t : Token} {ts : List Token} (isWord : IsWord w)
    (spelled : SpelledBy w t) (longest : EndWord cs) (rest : Spelled cs ts) :
    Spelled (w ++ cs) (t :: ts)
  | laterName {w cs : List Char} {ts : List Token} (isWord : IsWord w) (free : ¬ IsReserved w)
    (rest : Spelled cs ts) : Spelled (w ++ '+' :: cs) (.laterName (String.ofList w) :: ts)

/-! ## Characters -/

/-- Letters and digits may stand in a word. -/
theorem isWordChar_of_isAlphanum {c : Char} (h : c.isAlphanum = true) : isWordChar c = true := by
  simp [isWordChar, h]

/-- The last character of a run of word characters is good where it is neither `-` nor `.`. -/
theorem isWordEnd_iff {c : Char} (h : isWordChar c = true) :
    isWordEnd c = true ↔ c ≠ '-' ∧ c ≠ '.' := by
  constructor
  · intro hend
    constructor
    · rintro rfl
      exact absurd hend (by decide)
    · rintro rfl
      exact absurd hend (by decide)
  · rintro ⟨hdash, hdot⟩
    simpa [isWordChar, isWordEnd, hdash, hdot] using h

/-- Letters and digits are no blanks. -/
theorem isBlank_of_isAlphanum {c : Char} (h : c.isAlphanum = true) : Text.isBlank c = false := by
  have hrange : 48 ≤ c.toNat ∧ c.toNat ≤ 122 := by
    simp only [Char.isAlphanum, Char.isAlpha, Char.isUpper, Char.isLower, Char.isDigit,
      Bool.or_eq_true, Bool.and_eq_true, decide_eq_true_eq, ge_iff_le,
      UInt32.le_iff_toNat_le] at h
    change ((65 ≤ c.toNat ∧ c.toNat ≤ 90) ∨ (97 ≤ c.toNat ∧ c.toNat ≤ 122)) ∨
      (48 ≤ c.toNat ∧ c.toNat ≤ 57) at h
    omega
  simp only [Text.isBlank, Bool.or_eq_false_iff, Bool.and_eq_false_iff, decide_eq_false_iff_not,
    beq_eq_false_iff_ne]
  omega

/-! ## Words -/

/-- A run of word characters is read as far as it goes. -/
theorem takeWhile_isWordChar {w cs : List Char} (all : ∀ c ∈ w, isWordChar c = true)
    (stop : ∀ c, cs.head? = some c → isWordChar c = false) :
    (w ++ cs).takeWhile isWordChar = w ∧ (w ++ cs).dropWhile isWordChar = cs := by
  have htake : cs.takeWhile isWordChar = [] := by
    cases cs with
    | nil => rfl
    | cons c cs => rw [List.takeWhile_cons, stop c rfl]; rfl
  have hdrop : cs.dropWhile isWordChar = cs := by
    cases cs with
    | nil => rfl
    | cons c cs => rw [List.dropWhile_cons, stop c rfl]; rfl
  constructor
  · rw [List.takeWhile_append_of_pos all, htake, List.append_nil]
  · rw [List.dropWhile_append_of_pos all, hdrop]

/-- What comes after a run of word characters does not go on with one. -/
theorem stop_dropWhile (cs : List Char) (c : Char)
    (h : (cs.dropWhile isWordChar).head? = some c) : isWordChar c = false := by
  have hnot := List.head?_dropWhile_not isWordChar cs
  rw [h] at hnot
  simpa using hnot

/-- No word spells both operators. -/
theorem not_spells_and_of_or {w : List Char} (h : spells w "OR" = true) :
    spells w "AND" = false := by
  unfold spells at h ⊢
  rw [beq_iff_eq] at h
  rw [h]
  decide

/-- What a run of word characters makes is what it spells, with or without a `+` behind it. -/
theorem ofWord?_eq_some_iff {w : List Char} (all : ∀ c ∈ w, isWordChar c = true) (later : Bool)
    (t : Token) :
    ofWord? w later = some t ↔
      (∃ c, w.getLast? = some c ∧ c ≠ '-' ∧ c ≠ '.') ∧
        ((later = false ∧ SpelledBy w t) ∨
          (later = true ∧ ¬ IsReserved w ∧ t = .laterName (String.ofList w))) := by
  have hgood : w.getLast?.any isWordEnd = true ↔ ∃ c, w.getLast? = some c ∧ c ≠ '-' ∧ c ≠ '.' := by
    cases hlast : w.getLast? with
    | none => simp
    | some c =>
      have hc : isWordChar c = true := all c (List.mem_of_getLast? hlast)
      simp [isWordEnd_iff hc]
  constructor
  · -- The last character is looked at first, and then the keywords in their order.
    intro h
    unfold ofWord? at h
    split at h
    · cases h
    · next hend =>
      refine ⟨hgood.1 (by simpa using hend), ?_⟩
      split at h
      · next hand =>
        split at h
        · cases h
        · next hlater =>
          obtain rfl : Token.and = t := Option.some.inj h
          exact Or.inl ⟨by simpa using hlater, .and hand⟩
      · next hand =>
        split at h
        · next hor =>
          split at h
          · cases h
          · next hlater =>
            obtain rfl : Token.or = t := Option.some.inj h
            exact Or.inl ⟨by simpa using hlater, .or hor⟩
        · next hor =>
          split at h
          · cases h
          · next hwith =>
            have hfree : ¬ IsReserved w := by
              rintro (h | h | h)
              · exact hand h
              · exact hor h
              · exact hwith h
            split at h
            · next hlater => exact Or.inr ⟨hlater, hfree, (Option.some.inj h).symm⟩
            · next hlater =>
              obtain rfl : Token.name (String.ofList w) = t := Option.some.inj h
              exact Or.inl ⟨by simpa using hlater, .name hfree⟩
  · rintro ⟨hlast, hcases⟩
    have hend := hgood.2 hlast
    unfold ofWord?
    rcases hcases with ⟨rfl, hspelled⟩ | ⟨rfl, hfree, rfl⟩
    · cases hspelled with
      | and keyword => simp [hend, keyword]
      | or keyword => simp [hend, keyword, not_spells_and_of_or keyword]
      | name free =>
        simp only [IsReserved, not_or] at free
        simp [hend, free]
    · simp only [IsReserved, not_or] at hfree
      simp [hend, hfree]

/-! ## Texts -/

/-- Where there is no plus sign nothing is dropped. -/
theorem dropPlus_of_head? {cs : List Char} (h : cs.head? ≠ some '+') : dropPlus cs = cs := by
  unfold dropPlus
  split
  · simp at h
  · rfl

/-- Reading a text that starts with a word: the word makes the first token. -/
theorem ofChars?_word {w cs : List Char} (isWord : IsWord w)
    (stop : ∀ c, cs.head? = some c → isWordChar c = false) :
    ofChars? (w ++ cs) =
      (ofWord? w (cs.head? == some '+')).bind fun t =>
        (ofChars? (dropPlus cs)).map (t :: ·) := by
  obtain ⟨c, hfirst, halnum⟩ := isWord.first
  cases w with
  | nil => simp at hfirst
  | cons d w =>
    obtain rfl : d = c := by simpa using hfirst
    have hall : ∀ c ∈ w, isWordChar c = true := fun c hc =>
      isWord.all c (List.mem_cons_of_mem _ hc)
    obtain ⟨htake, hdrop⟩ := takeWhile_isWordChar hall stop
    have hopen : d ≠ '(' := by
      rintro rfl
      exact absurd halnum (by decide)
    have hclose : d ≠ ')' := by
      rintro rfl
      exact absurd halnum (by decide)
    have hend : isWordEnd d = true := halnum
    rw [List.cons_append, ofChars?, isBlank_of_isAlphanum halnum, if_neg Bool.false_ne_true,
      if_neg hopen, if_neg hclose, if_pos hend]
    simp only [htake, hdrop]
    cases ofWord? (d :: w) (cs.head? == some '+') <;> rfl

/-- A text is cut into the tokens that it spells. -/
theorem ofChars?_eq_some_of_spelled {cs : List Char} {ts : List Token} (h : Spelled cs ts) :
    ofChars? cs = some ts := by
  induction h with
  | done => rw [ofChars?]
  | blank isBlank rest ih => rw [ofChars?, if_pos isBlank, ih]
  | opening rest ih =>
    rw [ofChars?, if_neg (by decide), if_pos rfl, ih, Option.map_some]
  | closing rest ih =>
    rw [ofChars?, if_neg (by decide), if_neg (by decide), if_pos rfl, ih, Option.map_some]
  | @word w cs t ts isWord spelled longest rest ih =>
    have hplus : cs.head? ≠ some '+' := fun hhead => (longest '+' hhead).2 rfl
    have hword : ofWord? w false = some t :=
      (ofWord?_eq_some_iff isWord.all false t).2 ⟨isWord.last, Or.inl ⟨rfl, spelled⟩⟩
    rw [ofChars?_word isWord fun c hc => (longest c hc).1, beq_eq_false_iff_ne.2 hplus, hword,
      dropPlus_of_head? hplus, ih, Option.bind_some, Option.map_some]
  | @laterName w cs ts isWord free rest ih =>
    have hstop : ∀ c, ('+' :: cs).head? = some c → isWordChar c = false := by
      intro c hc
      obtain rfl : '+' = c := by simpa using hc
      decide
    have hword : ofWord? w true = some (.laterName (String.ofList w)) :=
      (ofWord?_eq_some_iff isWord.all true _).2 ⟨isWord.last, Or.inr ⟨rfl, free, rfl⟩⟩
    rw [ofChars?_word isWord hstop, List.head?_cons, beq_self_eq_true, hword, dropPlus, ih,
      Option.bind_some, Option.map_some]

/-- A text spells the tokens that it is cut into. -/
theorem spelled_of_ofChars? {cs : List Char} {ts : List Token} (h : ofChars? cs = some ts) :
    Spelled cs ts := by
  fun_induction ofChars? cs generalizing ts with
  | case1 =>
    obtain rfl : [] = ts := Option.some.inj h
    exact .done
  | case2 c cs hblank ih => exact .blank hblank (ih h)
  | case3 cs hblank ih =>
    obtain ⟨rest, hrest, rfl⟩ := Option.map_eq_some_iff.1 h
    exact .opening (ih hrest)
  | case4 cs hblank hopen ih =>
    obtain ⟨rest, hrest, rfl⟩ := Option.map_eq_some_iff.1 h
    exact .closing (ih hrest)
  | case5 => cases h
  | case6 c cs _ _ _ hend rest t hword =>
    rename_i ih
    obtain ⟨ts, hts, rfl⟩ := Option.map_eq_some_iff.1 h
    have hspelled := ih hts
    -- The run and what follows it make up the text.
    have hrun : c :: cs = (c :: cs.takeWhile isWordChar) ++ rest := by
      rw [List.cons_append, List.takeWhile_append_dropWhile]
    have hall : ∀ d ∈ c :: cs.takeWhile isWordChar, isWordChar d = true := by
      intro d hd
      rcases List.mem_cons.1 hd with rfl | htail
      · exact isWordChar_of_isAlphanum hend
      · exact List.mem_takeWhile_imp htail
    obtain ⟨hlast, hcases⟩ := (ofWord?_eq_some_iff hall _ t).1 hword
    have hisWord : IsWord (c :: cs.takeWhile isWordChar) := ⟨hall, ⟨c, rfl, hend⟩, hlast⟩
    rw [hrun]
    rcases hcases with ⟨hplus, hby⟩ | ⟨hplus, hfree, rfl⟩
    · have hnoplus : rest.head? ≠ some '+' := by simpa using hplus
      rw [dropPlus_of_head? hnoplus] at hspelled
      refine .word hisWord hby ?_ hspelled
      intro d hd
      refine ⟨stop_dropWhile cs d hd, ?_⟩
      rintro rfl
      exact hnoplus hd
    · obtain ⟨tail, htail⟩ : ∃ tail, rest = '+' :: tail := by
        cases hrest : rest with
        | nil => simp [hrest] at hplus
        | cons d tail =>
          obtain rfl : d = '+' := by simpa [hrest] using hplus
          exact ⟨tail, rfl⟩
      rw [htail] at hspelled ⊢
      exact .laterName hisWord hfree hspelled
  | case7 => cases h

/-- Reading a text finds exactly the tokens that it spells. -/
theorem ofChars?_eq_some_iff {cs : List Char} {ts : List Token} :
    ofChars? cs = some ts ↔ Spelled cs ts :=
  ⟨spelled_of_ofChars?, ofChars?_eq_some_of_spelled⟩

/-- Characters spell no tokens but one list of them. -/
theorem Spelled.eq_tokens {cs : List Char} {ts us : List Token} (hts : Spelled cs ts)
    (hus : Spelled cs us) : ts = us := by
  rw [← ofChars?_eq_some_iff] at hts hus
  rw [hts] at hus
  exact Option.some.inj hus

end Clearance.License.Token
