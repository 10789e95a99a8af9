import Clearance.Proofs.License.Approval
import Clearance.Proofs.License.Printing

/-!
# Layout

Texts that differ in their layout alone are the same expression, or both none. The layout is the
white space of a text, as far as it does not join or part its words, and the case of its keywords
(`LayoutStep`).

Reading goes through a text from cut to cut (`Token.ofChars?_append`): where no word goes on from
one part into the other, the tokens are those of the two parts, and there are none as soon as one
part has none. This holds for malformed text as well, so no step makes sense of a text that had none
before.
-/

set_option autoImplicit false

namespace Clearance.License

namespace Token

/-! ## Cuts -/

/-- No word goes on from the first part into the second, and none of its words takes a `+` from
there. -/
def Parted (front back : List Char) : Prop :=
  (∀ c, front.getLast? = some c → isWordChar c = false) ∨ EndWord back

/-- A text that is parted from another one stays so without its beginning. -/
theorem Parted.suffix {front back rest : List Char} (h : Parted front back)
    (suffix : rest <:+ front) : Parted rest back := by
  rcases h with hlast | hend
  · left
    intro c hc
    obtain ⟨before, rfl⟩ := suffix
    apply hlast
    rw [List.getLast?_append, hc, Option.some_or]
  · exact .inr hend

/-- At most a plus sign is dropped. -/
theorem dropPlus_suffix (cs : List Char) : dropPlus cs <:+ cs := by
  unfold dropPlus
  split
  · exact List.suffix_cons _ _
  · exact List.suffix_rfl

/-- A plus sign is dropped from the first text, whatever follows it. -/
theorem dropPlus_append {cs back : List Char} (h : cs = [] → EndWord back) :
    dropPlus (cs ++ back) = dropPlus cs ++ back := by
  cases cs with
  | nil => exact dropPlus_of_head? fun hhead => (h rfl '+' hhead).2 rfl
  | cons c cs =>
    by_cases hc : c = '+'
    · subst hc
      rfl
    · have hhead (cs : List Char) : (c :: cs).head? ≠ some '+' := by simpa using hc
      rw [List.cons_append, dropPlus_of_head? (hhead _), dropPlus_of_head? (hhead _),
        List.cons_append]

section word

variable {c : Char} {front back : List Char}

/-- Where a word fills the first part, the second one ends it. -/
theorem endWord_of_dropWhile (h : Parted (c :: front) back) (first : isWordChar c = true)
    (within : front.dropWhile isWordChar = []) : EndWord back := by
  rcases h with hlast | hend
  · exfalso
    obtain ⟨d, hd⟩ : ∃ d, (c :: front).getLast? = some d :=
      Option.ne_none_iff_exists'.1 (by simp)
    have hword : isWordChar d = true := by
      rcases List.mem_cons.1 (List.mem_of_getLast? hd) with rfl | hmem
      · exact first
      · exact List.dropWhile_eq_nil_iff.1 within d hmem
    rw [hlast d hd] at hword
    cases hword
  · exact hend

/-- A word of the first part is the same word of the whole text. -/
theorem run_append (h : Parted (c :: front) back) (first : isWordChar c = true) :
    (front ++ back).takeWhile isWordChar = front.takeWhile isWordChar ∧
      (front ++ back).dropWhile isWordChar = front.dropWhile isWordChar ++ back := by
  have hrun : front ++ back =
      front.takeWhile isWordChar ++ (front.dropWhile isWordChar ++ back) := by
    rw [← List.append_assoc, List.takeWhile_append_dropWhile]
  have hstop : ∀ d, (front.dropWhile isWordChar ++ back).head? = some d →
      isWordChar d = false := by
    intro d hd
    cases hrest : front.dropWhile isWordChar with
    | nil =>
      rw [hrest, List.nil_append] at hd
      exact (endWord_of_dropWhile h first hrest d hd).1
    | cons e rest =>
      rw [hrest, List.cons_append, List.head?_cons] at hd
      apply stop_dropWhile front
      rw [hrest, List.head?_cons, hd]
  rw [hrun]
  exact takeWhile_isWordChar (fun d hd => List.mem_takeWhile_imp hd) hstop

/-- A word of the first part has a `+` behind it exactly if it has one in the whole text. -/
theorem plus_append (h : Parted (c :: front) back) (first : isWordChar c = true) :
    ((front.dropWhile isWordChar ++ back).head? == some '+') =
      ((front.dropWhile isWordChar).head? == some '+') := by
  cases hrest : front.dropWhile isWordChar with
  | nil =>
    have hplus : back.head? ≠ some '+' := fun hhead =>
      (endWord_of_dropWhile h first hrest '+' hhead).2 rfl
    simpa using hplus
  | cons d rest => rfl

end word

/-- The tokens of a text are those of its parts. -/
theorem ofChars?_append {front back : List Char} (h : Parted front back) :
    ofChars? (front ++ back) =
      (ofChars? front).bind fun ts => (ofChars? back).map (ts ++ ·) := by
  have hcons (t : Token) (first second : Option (List Token)) :
      (first.bind fun ts => second.map (ts ++ ·)).map (t :: ·) =
        (first.map (t :: ·)).bind fun ts => second.map (ts ++ ·) := by
    cases first <;> cases second <;> rfl
  -- Each step leaves a suffix of the first part, from which no word goes on either.
  fun_induction ofChars? front with
  | case1 => simp
  | case2 c front hblank ih =>
    rw [List.cons_append, ofChars?, if_pos hblank, ih (h.suffix (List.suffix_cons c front))]
  | case3 front hblank ih =>
    rw [List.cons_append, ofChars?, if_neg hblank, if_pos rfl,
      ih (h.suffix (List.suffix_cons _ front)), hcons]
  | case4 front hblank hopen ih =>
    rw [List.cons_append, ofChars?, if_neg hblank, if_neg hopen, if_pos rfl,
      ih (h.suffix (List.suffix_cons _ front)), hcons]
  | case5 c front hblank hopen hclose hend rest hnone =>
    have hfirst := isWordChar_of_isAlphanum hend
    obtain ⟨htake, hdrop⟩ := run_append h hfirst
    rw [List.cons_append, ofChars?, if_neg hblank, if_neg hopen, if_neg hclose, if_pos hend]
    simp only [htake, hdrop, plus_append h hfirst]
    rw [hnone]
    rfl
  | case6 c front hblank hopen hclose hend rest t hsome ih =>
    have hfirst := isWordChar_of_isAlphanum hend
    obtain ⟨htake, hdrop⟩ := run_append h hfirst
    have hsuffix : dropPlus rest <:+ c :: front :=
      (dropPlus_suffix rest).trans ((List.dropWhile_suffix _).trans (List.suffix_cons c front))
    rw [List.cons_append, ofChars?, if_neg hblank, if_neg hopen, if_neg hclose, if_pos hend]
    simp only [htake, hdrop, plus_append h hfirst]
    rw [hsome]
    dsimp only
    rw [dropPlus_append (endWord_of_dropWhile h hfirst), ih (h.suffix hsuffix), hcons]
  | case7 c front hblank hopen hclose hend =>
    rw [List.cons_append, ofChars?, if_neg hblank, if_neg hopen, if_neg hclose, if_neg hend]
    rfl

/-! ## White space -/

/-- A blank ends a word, and it is no plus sign. -/
theorem endWord_of_isBlank {c : Char} (blank : Text.isBlank c = true) :
    isWordChar c = false ∧ c ≠ '+' := by
  constructor
  · by_contra hword
    rw [Bool.not_eq_false, isWordChar, Bool.or_eq_true, Bool.or_eq_true, beq_iff_eq,
      beq_iff_eq] at hword
    rcases hword with (halnum | rfl) | rfl
    · rw [isBlank_of_isAlphanum halnum] at blank
      cases blank
    · exact absurd blank (by decide)
    · exact absurd blank (by decide)
  · rintro rfl
    exact absurd blank (by decide)

/-- White space parts what stands around it, and adds no token. -/
theorem ofChars?_run {run : List Char} (some : run ≠ []) (blank : ∀ c ∈ run, Text.isBlank c = true)
    (front back : List Char) :
    ofChars? (front ++ run ++ back) =
      (ofChars? front).bind fun ts => (ofChars? back).map (ts ++ ·) := by
  have hlast : Parted (front ++ run) back := by
    left
    intro c hc
    rw [List.getLast?_append_of_ne_nil _ some] at hc
    exact (endWord_of_isBlank (blank c (List.mem_of_getLast? hc))).1
  have hfirst : Parted front run := .inr fun c hc =>
    endWord_of_isBlank (blank c (List.mem_of_head? hc))
  rw [ofChars?_append hlast, ofChars?_append hfirst, ofChars?_of_blank (List.all_eq_true.2 blank)]
  cases ofChars? front <;> simp

/-! ## Keywords -/

/-- A character is a letter or a digit if it is so in upper case. -/
theorem isAlphanum_of_toUpper {c : Char} (h : c.toUpper.isAlphanum = true) :
    c.isAlphanum = true := by
  unfold Char.toUpper at h
  split at h
  · next hlower =>
    have hcase : c.isLower = true := by simpa [Char.isLower] using hlower
    simp [Char.isAlphanum, Char.isAlpha, hcase]
  · exact h

/-- The keywords, in capitals. -/
def keywords : List String := ["AND", "OR"]

section keyword

variable {w v : List Char} {keyword : String}

/-- A keyword is spelled in letters. -/
theorem isAlphanum_of_spells (known : keyword ∈ keywords) (h : spells w keyword = true) :
    ∀ c ∈ w, c.isAlphanum = true := by
  have hletters : keyword.toList.all Char.isAlphanum = true := by
    rcases List.mem_pair.1 known with rfl | rfl
    · decide
    · decide
  intro c hc
  rw [spells, beq_iff_eq] at h
  rw [← h] at hletters
  apply isAlphanum_of_toUpper
  apply List.all_eq_true.1 hletters
  exact List.mem_map_of_mem hc

/-- A keyword is a word, whatever its case. -/
theorem isWord_of_spells (known : keyword ∈ keywords) (h : spells w keyword = true) :
    IsWord w := by
  have halnum := isAlphanum_of_spells known h
  have hne : w ≠ [] := by
    rintro rfl
    rw [spells, beq_iff_eq, List.map_nil, eq_comm, String.toList_eq_nil_iff] at h
    rw [h] at known
    exact absurd known (by decide)
  refine ⟨fun c hc => isWordChar_of_isAlphanum (halnum c hc), ?_, ?_⟩
  · exact ⟨w.head hne, List.head?_eq_some_head hne, halnum _ (List.head_mem hne)⟩
  · refine ⟨w.getLast hne, List.getLast?_eq_some_getLast hne, ?_⟩
    have hlast := halnum _ (List.getLast_mem hne)
    exact (isWordEnd_iff (isWordChar_of_isAlphanum hlast)).1 hlast

/-- A keyword is the same token in whatever case, and it is none with a `+` behind it. -/
theorem ofWord?_congr (known : keyword ∈ keywords) (hw : spells w keyword = true)
    (hv : spells v keyword = true) (later : Bool) : ofWord? w later = ofWord? v later := by
  have hspelled (other : String) : spells w other = spells v other := by
    rw [spells, beq_iff_eq] at hw hv
    rw [spells, spells, hw, hv]
  have hend {w : List Char} (h : spells w keyword = true) : w.getLast?.any isWordEnd = true := by
    obtain ⟨c, hc, hchar⟩ := (isWord_of_spells known h).last
    rw [hc, Option.any_some]
    apply (isWordEnd_iff _).2 hchar
    exact (isWord_of_spells known h).all c (List.mem_of_getLast? hc)
  have hkeyword : spells w "AND" = true ∨ spells w "OR" = true := by
    rcases List.mem_pair.1 known with rfl | rfl
    · exact .inl hw
    · exact .inr hw
  unfold ofWord?
  rw [hend hw, hend hv, hspelled "AND", hspelled "OR"]
  rw [hspelled "AND", hspelled "OR"] at hkeyword
  rcases hkeyword with h | h
  · simp [h]
  · simp [h]

/-- The case of a keyword makes no difference to the tokens. -/
theorem ofChars?_keyword (known : keyword ∈ keywords) (hw : spells w keyword = true)
    (hv : spells v keyword = true) {back : List Char}
    (ends : ∀ c, back.head? = some c → isWordChar c = false) :
    ofChars? (w ++ back) = ofChars? (v ++ back) := by
  rw [ofChars?_word (isWord_of_spells known hw) ends,
    ofChars?_word (isWord_of_spells known hv) ends,
    ofWord?_congr known hw hv]

end keyword

end Token

/-! ## Steps -/

/-- White space may come and go here: at the ends of a text and next to a parenthesis. -/
def IsLoose (front back : List Char) : Prop :=
  front = [] ∨ back = [] ∨
    ∃ c ∈ ['(', ')'], front.getLast? = some c ∨ back.head? = some c

/-- One change of the layout of a text. -/
inductive LayoutStep : List Char → List Char → Prop where
  /-- Other white space in the place of some. -/
  | space {run other : List Char} (front back : List Char) (filled : run ≠ [] ∧ other ≠ [])
    (blank : ∀ c ∈ run ++ other, Text.isBlank c = true) :
    LayoutStep (front ++ run ++ back) (front ++ other ++ back)
  /-- White space where none is needed. -/
  | loose {front back run : List Char} (loose : IsLoose front back)
    (blank : ∀ c ∈ run, Text.isBlank c = true) :
    LayoutStep (front ++ back) (front ++ run ++ back)
  /-- Another case of a word that is a keyword. -/
  | keyword {w v front back : List Char} {keyword : String} (known : keyword ∈ Token.keywords)
    (spelled : Token.spells w keyword = true) (other : Token.spells v keyword = true)
    (begins : ∀ c, front.getLast? = some c → Token.isWordChar c = false)
    (ends : ∀ c, back.head? = some c → Token.isWordChar c = false) :
    LayoutStep (front ++ w ++ back) (front ++ v ++ back)

/-- Texts that are made from each other by changes of the layout. -/
def SameLayout (s t : String) : Prop := Relation.EqvGen LayoutStep s.toList t.toList

/-- Where white space may come and go no word goes on. -/
theorem IsLoose.parted {front back : List Char} (h : IsLoose front back) :
    Token.Parted front back := by
  have hparenthesis : ∀ c ∈ ['(', ')'], Token.isWordChar c = false ∧ c ≠ '+' := by
    intro c hc
    rcases List.mem_pair.1 hc with rfl | rfl
    · decide
    · decide
  rcases h with rfl | rfl | ⟨c, hc, hlast | hhead⟩
  · exact .inl nofun
  · exact .inr nofun
  · left
    intro d hd
    obtain rfl : c = d := Option.some.inj (hlast.symm.trans hd)
    exact (hparenthesis c hc).1
  · right
    intro d hd
    obtain rfl : c = d := Option.some.inj (hhead.symm.trans hd)
    exact hparenthesis c hc

/-- One change of the layout changes no token. -/
theorem ofChars?_of_layoutStep {cs ds : List Char} (h : LayoutStep cs ds) :
    Token.ofChars? cs = Token.ofChars? ds := by
  cases h with
  | space front back filled blank =>
    rw [List.forall_mem_append] at blank
    rw [Token.ofChars?_run filled.1 blank.1, Token.ofChars?_run filled.2 blank.2]
  | @loose front back run loose blank =>
    by_cases hrun : run = []
    · rw [hrun, List.append_nil]
    · rw [Token.ofChars?_run hrun blank, Token.ofChars?_append loose.parted]
  | @keyword w v front back keyword known spelled other begins ends =>
    rw [List.append_assoc, List.append_assoc, Token.ofChars?_append (.inl begins),
      Token.ofChars?_append (.inl begins), Token.ofChars?_keyword known spelled other ends]

/-- Texts with the same layout have the same tokens. -/
theorem ofChars?_of_sameLayout {s t : String} (h : SameLayout s t) :
    Token.ofChars? s.toList = Token.ofChars? t.toList := by
  unfold SameLayout at h
  generalize s.toList = cs, t.toList = ds at h
  induction h with
  | rel cs ds step => exact ofChars?_of_layoutStep step
  | refl cs => rfl
  | symm cs ds _ ih => exact ih.symm
  | trans cs ds es _ _ first second => exact first.trans second

/-- Neither other white space nor another case of the keywords changes what a text is read as: the
same expression with the same names, or none as before. All licenses judge it the same, and the
verdict on a text is the one on what it is read as, for blank text too. -/
theorem parse_of_sameLayout :
    (∀ s t : String, SameLayout s t →
      parse s = parse t ∧
        ∀ approved : ApprovedSet, approved.judgeText s = approved.judgeText t) ∧
    ∀ (approved : ApprovedSet) (s : String), approved.judgeText s = approved.judge (parse s) := by
  have hjudge (approved : ApprovedSet) (s : String) :
      approved.judgeText s = approved.judge (parse s) := by
    rw [ApprovedSet.judgeText]
    split
    · next hblank =>
      rw [parse_of_isBlankText hblank]
      rfl
    · rfl
  refine ⟨fun s t hsame => ?_, hjudge⟩
  have hparse : parse s = parse t := by
    rw [parse, parse, ofChars?_of_sameLayout hsame]
  refine ⟨hparse, fun approved => ?_⟩
  rw [hjudge, hjudge, hparse]

/-- A tab for a blank, a blank within the parenthesis and a keyword in capitals. -/
theorem parse_of_sameLayout_of_three_steps :
    SameLayout "(MIT or\tX)" "( MIT OR X)" ∧
      parse "( MIT OR X)" = .either (.license "MIT") (.license "X") ∧
      parse "(MIT or\tX)" = .either (.license "MIT") (.license "X") := by
  have hspace : LayoutStep "(MIT or\tX)".toList "(MIT or X)".toList :=
    @LayoutStep.space ['\t'] [' '] "(MIT or".toList "X)".toList (by decide)
      (List.all_eq_true.1 (by decide))
  have hloose : LayoutStep "(MIT or X)".toList "( MIT or X)".toList :=
    @LayoutStep.loose ['('] "MIT or X)".toList [' '] (by simp [IsLoose])
      (List.all_eq_true.1 (by decide))
  have hkeyword : LayoutStep "( MIT or X)".toList "( MIT OR X)".toList :=
    @LayoutStep.keyword ['o', 'r'] ['O', 'R'] "( MIT ".toList " X)".toList "OR" (by decide)
      (by decide) (by decide) (by rintro c ⟨⟩; decide) (by rintro c ⟨⟩; decide)
  have hsame : SameLayout "(MIT or\tX)" "( MIT OR X)" :=
    .trans _ _ _ (.rel _ _ hspace) (.trans _ _ _ (.rel _ _ hloose) (.rel _ _ hkeyword))
  have hread : parse "( MIT OR X)" = .either (.license "MIT") (.license "X") := by cbv
  refine ⟨hsame, hread, ?_⟩
  rw [← hread]
  exact (parse_of_sameLayout.1 _ _ hsame).1

end Clearance.License
