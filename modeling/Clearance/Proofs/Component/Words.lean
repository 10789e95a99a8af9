import Clearance.Proofs.Component.Canonical
import Mathlib

/-!
# Notations of plain words

What the readers of the four notations make of text that is put together from plain words and the
separators of a notation. Text of one notation is refused by those that are tried before it, on
account of a character that they cannot have at that place (`FivePart.read_eq_none`) or cannot do
without (`PackageUrl.read_eq_none`, `Maven.read_eq_none`). Its own notation finds the words again,
because no separator stands in a word.
-/

set_option autoImplicit false

namespace Clearance

/-! ## Words -/

/-- ASCII letters and digits, the dot, the underscore and the hyphen. -/
def isPlainChar (c : Char) : Bool := c.isAlphanum || c == '.' || c == '_' || c == '-'

/-- A plain character is no separator. -/
theorem ne_of_isPlainChar {c sep : Char} (h : isPlainChar c = true)
    (hsep : isPlainChar sep = false) : c ≠ sep := by
  rintro rfl
  rw [h] at hsep
  cases hsep

/-- Plain characters are ASCII. -/
theorem toNat_lt_of_isPlainChar {c : Char} (h : isPlainChar c = true) : c.toNat < 0x80 := by
  simp only [isPlainChar, Char.isAlphanum, Char.isAlpha, Char.isUpper, Char.isLower, Char.isDigit,
    Bool.or_eq_true, Bool.and_eq_true, decide_eq_true_eq, beq_iff_eq, ge_iff_le,
    UInt32.le_iff_toNat_le] at h
  rcases h with (((((h | h) | h) | rfl) | rfl) | rfl)
  · have hz : 'Z'.val.toNat = 90 := rfl
    simp only [Char.toNat]
    omega
  · have hz : 'z'.val.toNat = 122 := rfl
    simp only [Char.toNat]
    omega
  · have hnine : '9'.val.toNat = 57 := rfl
    simp only [Char.toNat]
    omega
  all_goals decide

/-- A plain character may stand in a scope. -/
theorem isScopeChar_of_isPlainChar {c : Char} (h : isPlainChar c = true) :
    FivePart.isScopeChar c = true := by
  have hsmall := toNat_lt_of_isPlainChar h
  simp only [isPlainChar, Bool.or_eq_true, beq_iff_eq] at h
  simp only [FivePart.isScopeChar, FivePart.isSourceChar, FivePart.isKindChar, Text.isWord, hsmall,
    if_true, Bool.or_eq_true, beq_iff_eq]
  tauto

/-- A plain character is no blank. -/
theorem isBlank_of_isPlainChar {c : Char} (h : isPlainChar c = true) : Text.isBlank c = false :=
  FivePart.isBlank_of_isNameChar (by simp [FivePart.isNameChar, isScopeChar_of_isPlainChar h])

/-- A word of plain characters. -/
structure PlainWord where
  text : String
  nonempty : text.toList ≠ []
  plain : text.toList.all isPlainChar = true

namespace PlainWord

/-- The characters of the word. -/
def chars (w : PlainWord) : List Char := w.text.toList

/-- The word starts like a version: with a digit, or with `v` and a digit. -/
def startsVersion (w : PlainWord) : Bool :=
  match w.chars with
  | 'v' :: c :: _ => c.isDigit
  | c :: _ => c.isDigit
  | [] => false

/-- A word has characters. -/
theorem chars_ne_nil (w : PlainWord) : w.chars ≠ [] := w.nonempty

/-- A word is not the empty text. -/
theorem text_ne_empty (w : PlainWord) : w.text ≠ "" := by
  intro hempty
  exact w.nonempty (by rw [hempty]; rfl)

/-- A word has characters, as a test. -/
theorem isEmpty_chars (w : PlainWord) : w.chars.isEmpty = false := by simp [w.chars_ne_nil]

/-- The characters of a word make its text. -/
@[simp] theorem ofList_chars (w : PlainWord) : String.ofList w.chars = w.text :=
  String.ofList_toList

/-- The characters of a word behind an `@` make its text behind one. -/
theorem ofList_at_cons (w : PlainWord) : String.ofList ('@' :: w.chars) = "@" ++ w.text := by
  rw [← String.toList_inj, String.toList_append, String.toList_ofList]
  rfl

/-- A word is made of plain characters. -/
theorem isPlainChar_of_mem {w : PlainWord} {c : Char} (h : c ∈ w.chars) : isPlainChar c = true :=
  List.all_eq_true.1 w.plain c h

/-- No separator of a notation stands in a word. -/
theorem not_mem (w : PlainWord) {c : Char} (h : isPlainChar c = false) : c ∉ w.chars :=
  fun hmem => ne_of_isPlainChar (isPlainChar_of_mem hmem) h rfl

/-- A word holds no blank. -/
theorem isBlank_of_mem (w : PlainWord) : ∀ c ∈ w.chars, Text.isBlank c = false :=
  fun _ hc => isBlank_of_isPlainChar (isPlainChar_of_mem hc)

/-- A word could be a scope. -/
theorem all_isScopeChar (w : PlainWord) : w.chars.all FivePart.isScopeChar = true := by
  rw [List.all_eq_true]
  exact fun c hc => isScopeChar_of_isPlainChar (isPlainChar_of_mem hc)

end PlainWord

/-- A word has nothing to decode. -/
theorem PlainWord.percentDecode?_chars (w : PlainWord) :
    Text.percentDecode? w.chars = some w.text := by
  rw [Text.percentDecode?_of_free (w.not_mem (by decide)), ofList_chars]

/-! ## Texts that a notation refuses -/

namespace FivePart

/-- Where all characters are allowed no escape is needed. -/
theorem allOrEscaped_of_all {allowed : Char → Bool} {cs : List Char}
    (h : cs.all allowed = true) : allOrEscaped allowed cs = true := by
  fun_induction allOrEscaped allowed cs with
  | case1 => rfl
  | case2 c cs _ ih =>
    simp only [List.all_cons, Bool.and_eq_true] at h
    exact ih h.2.2.2
  | case3 c cs _ ih =>
    simp only [List.all_cons, Bool.and_eq_true] at h
    simp only [h.1, h.2.1, h.2.2.1, ih h.2.2.2, Bool.and_self]
  | case4 c cs _ ih =>
    simp only [List.all_cons, Bool.and_eq_true] at h
    simp only [h.1, ih h.2, Bool.and_self]

/-- A character that no kind can hold, before the first slash, rules the notation out. -/
theorem read_eq_none {s : String} {before after : List Char} {c : Char}
    (text : Text.trimChars s.toList = before ++ c :: after) (noSlash : '/' ∉ before)
    (notSlash : c ≠ '/') (foreign : isKindChar c = false) : read s = none := by
  have hfront : '/' ∉ before ++ [c] := by simp [noSlash, Ne.symm notSlash]
  obtain ⟨kind, rest, hcut, hc⟩ : ∃ kind rest,
      (Text.trimChars s.toList).splitOn '/' = kind :: rest ∧ c ∈ kind := by
    rw [text, List.append_cons]
    by_cases hafter : '/' ∈ after
    · obtain ⟨mid, rest, rfl, hmid⟩ := List.eq_append_cons_of_mem hafter
      refine ⟨before ++ [c] ++ mid, rest.splitOn '/', ?_, by simp⟩
      have hfree : '/' ∉ before ++ [c] ++ mid := by
        rw [List.mem_append, not_or]
        exact ⟨hfront, hmid⟩
      rw [← List.append_assoc, splitOn_append_cons, List.splitOn_eq_singleton hfree,
        List.singleton_append]
    · refine ⟨before ++ [c] ++ after, [], ?_, by simp⟩
      apply List.splitOn_eq_singleton
      rw [List.mem_append, not_or]
      exact ⟨hfront, hafter⟩
  unfold read
  rw [hcut]
  split
  · next hparts =>
    obtain ⟨rfl, -⟩ := List.cons.inj hparts
    rw [if_neg]
    intro hgood
    simp only [Bool.and_eq_true, List.all_eq_true] at hgood
    rw [hgood.1.1.1.1.2 c hc] at foreign
    cases foreign
  · rfl

/-- A text of allowed characters is a part of an id if it is not empty. -/
theorem isSegment_of_forall {part : String} (nonempty : part.toList ≠ [])
    (allowed : ∀ c ∈ part.toList, isNameChar c = true) : Coordinates.isSegment part = true := by
  simp only [Coordinates.isSegment, Bool.and_eq_true, Bool.not_eq_true', List.isEmpty_eq_false_iff,
    List.all_eq_true]
  refine ⟨nonempty, fun c hc => ⟨?_, ?_⟩⟩
  · rw [bne_iff_ne]
    rintro rfl
    exact absurd (allowed _ hc) (by decide)
  · rw [isBlank_of_isNameChar (allowed c hc)]

/-- Five parts with words for the name and the version. -/
theorem read_words {kind source scope : String} {name version : PlainWord}
    (hkind : kind.toList ≠ [] ∧ kind.toList.all isKindChar = true)
    (hsource : source.toList ≠ [] ∧ source.toList.all isSourceChar = true)
    (hscope : scope.toList ≠ [] ∧ scope.toList.all isScopeChar = true) :
    ComponentId.read
        (kind ++ "/" ++ source ++ "/" ++ scope ++ "/" ++ name.text ++ "/" ++ version.text) =
      .located (.of kind source (some scope) name.text version.text) := by
  have hscopeText := Coordinates.scopeText_of kind source (some scope) name.text version.text
  rw [Option.getD_some] at hscopeText
  obtain ⟨someKind, hkind⟩ := hkind
  obtain ⟨someSource, hsource⟩ := hsource
  obtain ⟨someScope, hscope⟩ := hscope
  have hname := name.all_isScopeChar
  have hversion := version.all_isScopeChar
  have hwell : (Coordinates.of kind source (some scope) name.text version.text).isWellFormed =
      true := by
    rw [Coordinates.isWellFormed_iff_parts, Coordinates.parts, hscopeText]
    rw [List.all_eq_true] at hkind hsource hscope hname hversion
    simp only [Coordinates.of, List.forall_mem_cons, String.ofList_toList]
    refine ⟨isSegment_of_forall someKind fun c hc => ?_,
      isSegment_of_forall someSource fun c hc => ?_,
      isSegment_of_forall someScope fun c hc => ?_,
      isSegment_of_forall name.nonempty fun c hc => ?_,
      isSegment_of_forall version.nonempty fun c hc => ?_, by simp⟩
    · simp [isNameChar, isScopeChar, isSourceChar, hkind c hc]
    · simp [isNameChar, isScopeChar, hsource c hc]
    · simp [isNameChar, hscope c hc]
    · simp [isNameChar, hname c hc]
    · simp [isNameChar, hversion c hc]
  have hadmits : admits (.of kind source (some scope) name.text version.text) = true := by
    have hnames : name.text.toList.all isNameChar = true := by
      rw [List.all_eq_true] at hname ⊢
      intro c hc
      simp [isNameChar, hname c hc]
    rw [admits, hscopeText, Bool.and_eq_true, Bool.and_eq_true, Bool.and_eq_true]
    exact ⟨⟨⟨hkind, hsource⟩, allOrEscaped_of_all hscope⟩, allOrEscaped_of_all hnames⟩
  have hread := read_canonical hwell
  rw [hadmits, if_pos rfl, Coordinates.normalised_of, Coordinates.canonical, hscopeText] at hread
  exact ComponentId.read_of_first [] rfl (by simp) hread

end FivePart

/-- The body of a package URL is a piece of it. -/
theorem PackageUrl.mem_of_mem_body {cs body : List Char} (h : body? cs = some body) {c : Char}
    (hc : c ∈ body) : c ∈ cs := by
  simp only [body?, Option.bind_eq_bind, Option.bind_eq_some_iff] at h
  obtain ⟨⟨head, rest⟩, hcut, h⟩ := h
  obtain ⟨rfl, -⟩ := Text.cutFirst_eq_some hcut
  split at h
  · obtain rfl := Option.some.inj h
    have hrest : c ∈ rest.dropWhile (· == '/') := Text.mem_of_mem_upTo (Text.mem_of_mem_upTo hc)
    have hmem : c ∈ rest := (List.dropWhile_sublist _).subset hrest
    exact List.mem_append_right _ (List.mem_cons_of_mem _ hmem)
  · cases h

/-- A package URL has a colon and an at sign. -/
theorem PackageUrl.read_eq_none {s : String}
    (h : ':' ∉ Text.trimChars s.toList ∨ '@' ∉ Text.trimChars s.toList) : read s = none := by
  unfold read
  rcases h with hcolon | hat
  · unfold body?
    rw [Text.cutFirst_eq_none hcolon]
    rfl
  · cases hbody : body? (Text.trimChars s.toList) with
    | none => rfl
    | some body =>
      have hfree : '@' ∉ body := fun hmem => hat (mem_of_mem_body hbody hmem)
      simp [Text.cutLast_eq_none hfree]

/-- A Maven dependency has colons. -/
theorem Maven.read_eq_none {s : String} (h : ':' ∉ Text.trimChars s.toList) : read s = none := by
  unfold read
  rw [List.splitOn_eq_singleton h]
  rfl

/-! ## Package URLs -/

namespace PackageUrl

/-- Nothing, or text that starts with the mark of qualifiers or of a subpath. -/
def IsTail (tail : List Char) : Prop := ∀ c ∈ tail.head?, c = '?' ∨ c = '#'

/-- A tail is one without the white space at its end, too. -/
theorem IsTail.trimRight {tail : List Char} (h : IsTail tail) : IsTail (Text.trimRight tail) := by
  cases tail with
  | nil => exact h
  | cons c rest =>
    have hc : ∀ d ∈ [c], Text.isBlank d = false := by
      rw [List.forall_mem_singleton]
      rcases h c rfl with rfl | rfl <;> decide
    have htrim : Text.trimRight (c :: rest) = c :: Text.trimRight rest :=
      Text.trimRight_append hc rest
    rw [htrim]
    exact h

/-- Nothing stands before the mark that a tail starts with. -/
theorem upTo_of_isTail {tail : List Char} (h : IsTail tail) :
    Text.upTo '?' (Text.upTo '#' tail) = [] := by
  cases tail with
  | nil => rfl
  | cons c rest => rcases h c rfl with rfl | rfl <;> rfl

/-- The body of a package URL ends where its qualifiers or its subpath begin. -/
theorem body?_append {c : Char} {body tail : List Char} (notSlash : c ≠ '/')
    (noMark : ∀ d ∈ c :: body, d ≠ '?' ∧ d ≠ '#') (h : IsTail tail) :
    body? ("pkg:".toList ++ (c :: body ++ tail)) = some (c :: body) := by
  have hcut : Text.cutFirst ':' ("pkg:".toList ++ (c :: body ++ tail)) =
      some (scheme.toList, c :: body ++ tail) := by
    have hfree : ':' ∉ scheme.toList := by decide
    exact Text.cutFirst_append hfree _
  have hfront : (c :: body ++ tail).dropWhile (· == '/') = c :: body ++ tail :=
    List.dropWhile_cons_of_neg (by simpa using notSlash)
  have hlower : scheme.toList.map Char.toLower = scheme.toList := by decide
  simp only [body?, hcut, Option.bind_eq_bind, Option.bind_some, hlower, if_true, hfront]
  rw [Text.upTo_append fun hmem => (noMark _ hmem).2 rfl,
    Text.upTo_append fun hmem => (noMark _ hmem).1 rfl, upTo_of_isTail h, List.append_nil]

/-- The pieces that a package URL is written from, the scope and the name as segments. -/
structure Pieces where
  kind : List Char
  scopes : List (List Char)
  name : List Char
  version : List Char

/-- The scheme and its colon hold no blank. -/
theorem isBlank_of_mem_scheme : ∀ c ∈ "pkg:".toList, Text.isBlank c = false := by
  have hall : ("pkg:".toList.all fun c => !Text.isBlank c) = true := by decide
  simpa using hall

namespace Pieces

variable (p : Pieces)

/-- The segments of the path behind the type. -/
def segments : List (List Char) := p.scopes ++ [p.name]

/-- The type and the segments behind it. -/
def path : List Char := ['/'].intercalate (p.kind :: p.segments)

/-- What stands between the scheme and the tail. -/
def body : List Char := p.path ++ '@' :: p.version

/-- No piece holds a character that would end it, and none that matters is missing. -/
structure Sound : Prop where
  someKind : p.kind ≠ []
  someName : p.name ≠ []
  noSlash : ∀ part ∈ p.kind :: p.segments, '/' ∉ part
  noAt : '@' ∉ p.version
  noMark : ∀ part ∈ p.version :: p.kind :: p.segments, ∀ c ∈ part,
    Text.isBlank c = false ∧ c ≠ '?' ∧ c ≠ '#'

variable {p}

/-- There is a segment for the name. -/
theorem segments_ne_nil : p.segments ≠ [] := by simp [segments]

/-- The body holds no blank and no mark. -/
theorem Sound.mem_body (h : p.Sound) {c : Char} (hc : c ∈ p.body) :
    Text.isBlank c = false ∧ c ≠ '?' ∧ c ≠ '#' := by
  rcases List.mem_append.1 hc with hin | hin
  · rcases mem_intercalate hin with hsep | ⟨part, hpart, hmem⟩
    · obtain rfl := List.mem_singleton.1 hsep
      decide
    · exact h.noMark part (List.mem_cons_of_mem _ hpart) c hmem
  · rcases List.mem_cons.1 hin with rfl | hmem
    · decide
    · exact h.noMark p.version List.mem_cons_self c hmem

/-- The body is cut out of the URL as it was put in. -/
theorem Sound.body?_eq (h : p.Sound) {s : String} {tail : List Char} (tailed : IsTail tail)
    (text : s.toList = "pkg:".toList ++ (p.body ++ tail)) :
    body? (Text.trimChars s.toList) = some p.body := by
  have htrim : Text.trimChars s.toList = "pkg:".toList ++ (p.body ++ Text.trimRight tail) := by
    rw [text, Text.trimChars_append (by simp) isBlank_of_mem_scheme,
      Text.trimRight_append fun c hc => (h.mem_body hc).1]
  obtain ⟨c, kind, hkind⟩ := List.exists_cons_of_ne_nil h.someKind
  have hbody : p.body = c :: (kind ++ '/' :: ['/'].intercalate p.segments ++ '@' :: p.version) := by
    rw [body, path, intercalate_cons segments_ne_nil, hkind]
    rfl
  have hslash : c ≠ '/' := by
    rintro rfl
    exact h.noSlash p.kind List.mem_cons_self (by rw [hkind]; exact List.mem_cons_self)
  rw [htrim, hbody]
  exact body?_append hslash (fun d hd => (h.mem_body (hbody ▸ hd)).2) tailed.trimRight

/-- Cut at its slashes, the path is the type and the segments. -/
theorem Sound.splitOn_path (h : p.Sound) :
    (Text.dropTrailing '/' p.path).splitOn '/' = p.kind :: p.segments := by
  -- The path ends in the name, so no slash is dropped at its end.
  have hpath : p.path = ['/'].intercalate (p.kind :: p.scopes) ++ ['/'] ++ p.name := by
    rw [path, segments, ← List.cons_append, intercalate_concat (List.cons_ne_nil _ _),
      List.append_assoc, List.singleton_append]
  have hname : '/' ∉ p.name := h.noSlash p.name (by simp [segments])
  rw [hpath, Text.dropTrailing_append _ h.someName hname, ← hpath]
  exact List.splitOn_intercalate '/' h.noSlash (List.cons_ne_nil _ _)

/-- A package URL is read as what its pieces decode to. -/
theorem Sound.read_eq (h : p.Sound) {s : String} {tail : List Char} (tailed : IsTail tail)
    (text : s.toList = "pkg:".toList ++ (p.body ++ tail)) {decoded : List String}
    {scope : Option String} {name version : String}
    (decodes : p.segments.mapM Text.percentDecode? = some decoded)
    (named : scopeAndName? decoded = some (scope, name)) (someName : name ≠ "")
    (versioned : Text.percentDecode? p.version = some version) (someVersion : version ≠ "") :
    read s = some (.of (origin (String.ofList (p.kind.map Char.toLower))).1
      (origin (String.ofList (p.kind.map Char.toLower))).2 scope name version) := by
  have hcut : Text.cutLast '@' p.body = some (p.path, p.version) := Text.cutLast_append _ h.noAt
  have hempty : (p.kind.isEmpty || name.isEmpty || version.isEmpty) = false := by
    simp [h.someKind, someName, someVersion]
  unfold read
  simp only [h.body?_eq tailed text, hcut, h.splitOn_path, versioned, decodes, named,
    Option.bind_eq_bind, Option.bind_some, List.head?_cons, List.tail_cons]
  rw [hempty]
  rfl

/-- Pieces of plain characters, plus signs and escapes are sound. -/
theorem sound_of_plain (someKind : p.kind ≠ []) (someName : p.name ≠ [])
    (plain : ∀ part ∈ p.version :: p.kind :: p.segments, ∀ c ∈ part,
      isPlainChar c = true ∨ c = '%' ∨ c = '+') : p.Sound := by
  have hnever : ∀ c, isPlainChar c = true ∨ c = '%' ∨ c = '+' →
      c ≠ '/' ∧ c ≠ '@' ∧ Text.isBlank c = false ∧ c ≠ '?' ∧ c ≠ '#' := by
    rintro c (hplain | rfl | rfl)
    · refine ⟨?_, ?_, isBlank_of_isPlainChar hplain, ?_, ?_⟩
      all_goals exact ne_of_isPlainChar hplain (by decide)
    · decide
    · decide
  refine ⟨someKind, someName, ?_, ?_, ?_⟩
  · intro part hpart hmem
    exact (hnever _ (plain part (List.mem_cons_of_mem _ hpart) _ hmem)).1 rfl
  · intro hmem
    exact (hnever _ (plain p.version List.mem_cons_self _ hmem)).2.1 rfl
  · intro part hpart c hc
    exact (hnever c (plain part hpart c hc)).2.2

/-- The colon behind the scheme keeps the five-part notation away. -/
theorem fivePart_eq_none {s : String} {tail : List Char}
    (text : s.toList = "pkg:".toList ++ (p.body ++ tail)) : FivePart.read s = none := by
  have htrim : Text.trimChars s.toList =
      scheme.toList ++ ':' :: Text.trimRight (p.body ++ tail) := by
    rw [text]
    exact Text.trimChars_append (by simp) isBlank_of_mem_scheme _
  exact FivePart.read_eq_none htrim (by decide) (by decide) (by decide)

end Pieces

/-- A part without escapes is made of plain characters. -/
theorem plain_of_all {part : List Char} (h : part.all isPlainChar = true) :
    ∀ c ∈ part, isPlainChar c = true ∨ c = '%' :=
  fun c hc => Or.inl (List.all_eq_true.1 h c hc)

/-- A package URL of words, with a scope of words and escapes or without one. -/
theorem read_words {kind : String} {scopes : List (List Char)} {scope : Option String}
    {name version : PlainWord} {s : String} {tail : List Char} (someKind : kind.toList ≠ [])
    (plain : ∀ part ∈ kind.toList :: scopes, ∀ c ∈ part, isPlainChar c = true ∨ c = '%')
    (decodes : scopes.mapM Text.percentDecode? = some scope.toList) (tailed : IsTail tail)
    (text : s.toList = "pkg:".toList ++
      (Pieces.body ⟨kind.toList, scopes, name.chars, version.chars⟩ ++ tail)) :
    ComponentId.read s = .located (.of (origin (String.ofList (kind.toList.map Char.toLower))).1
      (origin (String.ofList (kind.toList.map Char.toLower))).2 scope name.text version.text) := by
  have hpieces : ∀ part ∈ version.chars :: kind.toList :: (scopes ++ [name.chars]), ∀ c ∈ part,
      isPlainChar c = true ∨ c = '%' := by
    rw [List.forall_mem_cons] at plain
    simp only [List.forall_mem_cons, List.forall_mem_append]
    exact ⟨plain_of_all version.plain, plain.1, plain.2, plain_of_all name.plain, by simp⟩
  have hsound : (Pieces.mk kind.toList scopes name.chars version.chars).Sound :=
    Pieces.sound_of_plain someKind name.chars_ne_nil fun part hpart c hc =>
      (hpieces part hpart c hc).imp_right Or.inl
  have hdecodes : (scopes ++ [name.chars]).mapM Text.percentDecode? =
      some (scope.toList ++ [name.text]) := by
    simp [List.mapM_append, decodes, PlainWord.percentDecode?_chars]
  have hnamed : scopeAndName? (scope.toList ++ [name.text]) = some (scope, name.text) := by
    cases scope <;> rfl
  have hread := hsound.read_eq tailed text hdecodes hnamed name.text_ne_empty
    version.percentDecode?_chars version.text_ne_empty
  have hfive := Pieces.fivePart_eq_none text
  exact ComponentId.read_of_first [.fivePart] rfl (by simp [Notation.read, hfive]) hread

end PackageUrl

/-! ## Maven dependencies -/

namespace Maven

/-- A word is a plain field. -/
theorem isPlain_chars (w : PlainWord) : isPlain w.chars = true := by
  rw [isPlain, List.all_eq_true]
  intro c hc
  rw [bne_iff_ne]
  rintro rfl
  exact w.not_mem (by decide) hc

/-- A word is a filled field. -/
theorem isFilled_chars (w : PlainWord) : isFilled w.chars = true := by
  simp [isFilled, isPlain_chars, w.chars_ne_nil]

/-- A word is a version if it starts like one. -/
theorem isVersion_chars (w : PlainWord) : isVersion w.chars = w.startsVersion := by
  have hdigit : ∀ c ∈ w.chars, Text.isDigit c = c.isDigit := by
    intro c hc
    rw [Text.isDigit, if_pos (toNat_lt_of_isPlainChar (PlainWord.isPlainChar_of_mem hc))]
  have hplain := isPlain_chars w
  unfold isVersion PlainWord.startsVersion
  rw [hplain, Bool.true_and]
  cases hchars : w.chars with
  | nil => rfl
  | cons c cs =>
    have hc := hdigit c (by simp [hchars])
    cases cs with
    | nil => simpa using hc
    | cons d rest =>
      have hd := hdigit d (by simp [hchars])
      by_cases hv : c = 'v'
      · simpa [hv] using hd
      · simpa [hv] using hc

/-- Words with colons between them. -/
def joined (words : List PlainWord) : String := ":".intercalate (words.map (·.text))

/-- The characters of joined words are those of the words, with colons between them. -/
theorem toList_joined (words : List PlainWord) :
    (joined words).toList = [':'].intercalate (words.map (·.chars)) := by
  rw [joined, String.toList_intercalate, List.map_map]
  rfl

/-- Joined words hold plain characters and colons. -/
theorem mem_joined {words : List PlainWord} {c : Char} (h : c ∈ (joined words).toList) :
    c = ':' ∨ isPlainChar c = true := by
  rw [toList_joined] at h
  rcases mem_intercalate h with hsep | ⟨chars, hchars, hmem⟩
  · exact Or.inl (List.mem_singleton.1 hsep)
  · obtain ⟨w, -, rfl⟩ := List.mem_map.1 hchars
    exact Or.inr (PlainWord.isPlainChar_of_mem hmem)

/-- There is no white space around joined words. -/
theorem trimChars_joined (words : List PlainWord) :
    Text.trimChars (joined words).toList = (joined words).toList := by
  apply Text.trimChars_of_free
  intro c hc
  rcases mem_joined hc with rfl | hplain
  · decide
  · exact isBlank_of_isPlainChar hplain

/-- Cut at its colons, the joined text is the words. -/
theorem splitOn_joined {words : List PlainWord} (nonempty : words ≠ []) :
    (Text.trimChars (joined words).toList).splitOn ':' = words.map (·.chars) := by
  rw [trimChars_joined, toList_joined]
  refine List.splitOn_intercalate ':' (fun chars hchars => ?_) (by simpa using nonempty)
  obtain ⟨w, -, rfl⟩ := List.mem_map.1 hchars
  exact w.not_mem (by decide)

/-- Words with colons between them are a dependency of the first two, with the version at the
rightmost place for one. -/
theorem read_joined {group name version : PlainWord} {rest : List PlainWord} {index : Nat}
    (notBundle : bundlePrefix.toList.isPrefixOf group.chars = false)
    (found : versionIndex? ((group :: name :: rest).map (·.chars)) = some index)
    (placed : (group :: name :: rest)[index]? = some version) :
    ComponentId.read (joined (group :: name :: rest)) =
      .located (.of "maven" "mavencentral" (some group.text) name.text version.text) := by
  have hfive : FivePart.read (joined (group :: name :: rest)) = none := by
    have htext : Text.trimChars (joined (group :: name :: rest)).toList =
        group.chars ++ ':' :: [':'].intercalate ((name :: rest).map (·.chars)) := by
      rw [trimChars_joined, toList_joined, List.map_cons, intercalate_cons (by simp)]
    exact FivePart.read_eq_none htext (group.not_mem (by decide)) (by decide) (by decide)
  have hurl : PackageUrl.read (joined (group :: name :: rest)) = none := by
    apply PackageUrl.read_eq_none
    rw [trimChars_joined]
    right
    intro hat
    rcases mem_joined hat with hcolon | hplain
    · exact absurd hcolon (by decide)
    · exact absurd hplain (by decide)
  have hversion : ((group :: name :: rest).map (·.chars)).getD index [] = version.chars := by
    rw [List.getD_eq_getElem?_getD, List.getElem?_map, placed]
    rfl
  have hown : read (joined (group :: name :: rest)) =
      some (.of "maven" "mavencentral" (some group.text) name.text version.text) := by
    have hgroup : bundlePrefix.toList.isPrefixOf group.text.toList = false := notBundle
    unfold read
    rw [splitOn_joined (List.cons_ne_nil _ _)]
    rw [List.map_cons, List.map_cons] at found hversion ⊢
    simp only [found, hversion, List.getD_cons_zero, List.getD_cons_succ, PlainWord.ofList_chars,
      hgroup]
    rfl
  exact ComponentId.read_of_first [.fivePart, .packageUrl] rfl
    (by simp [Notation.read, hfive, hurl]) hown

end Maven

/-! ## npm packages -/

namespace Npm

/-- A word could be the name of a package. -/
theorem all_isNameChar (w : PlainWord) : w.chars.all isNameChar = true := by
  rw [List.all_eq_true]
  intro c hc
  have hplain := PlainWord.isPlainChar_of_mem hc
  have hslash : c ≠ '/' := ne_of_isPlainChar hplain (by decide)
  have hat : c ≠ '@' := ne_of_isPlainChar hplain (by decide)
  simp [isNameChar, isBlank_of_isPlainChar hplain, hslash, hat]

/-- A word could be the version of a package. -/
theorem all_isVersionChar (w : PlainWord) : w.chars.all isVersionChar = true := by
  rw [List.all_eq_true]
  intro c hc
  have hplain := PlainWord.isPlainChar_of_mem hc
  have hat : c ≠ '@' := ne_of_isPlainChar hplain (by decide)
  simp [isVersionChar, isBlank_of_isPlainChar hplain, hat]

/-- Two words with an `@` between them are read as a name and a version. -/
theorem readNamed_words (scope : Option String) (name version : PlainWord) :
    readNamed scope (name.chars ++ '@' :: version.chars) =
      some (.of "npm" "npmjs" scope name.text version.text) := by
  have hcut : Text.cutFirst '@' (name.chars ++ '@' :: version.chars) =
      some (name.chars, version.chars) := Text.cutFirst_append (name.not_mem (by decide)) _
  simp only [readNamed, hcut, Option.bind_eq_bind, Option.bind_some, PlainWord.isEmpty_chars,
    all_isNameChar, all_isVersionChar, PlainWord.ofList_chars, Bool.not_false, Bool.and_self,
    if_true]

/-- Only this notation reads a name, an at sign and a version. -/
theorem read_words {name version : PlainWord} {s : String}
    (text : s.toList = name.chars ++ '@' :: version.chars) :
    ComponentId.read s = .located (.of "npm" "npmjs" none name.text version.text) := by
  have htrim : Text.trimChars s.toList = name.chars ++ '@' :: version.chars := by
    rw [text]
    apply Text.trimChars_of_free
    simp only [List.forall_mem_append, List.forall_mem_cons]
    exact ⟨name.isBlank_of_mem, by decide, version.isBlank_of_mem⟩
  have hcolon : ':' ∉ Text.trimChars s.toList := by
    have hname : ':' ∉ name.chars := name.not_mem (by decide)
    have hversion : ':' ∉ version.chars := version.not_mem (by decide)
    simp [htrim, hname, hversion]
  have hfive : FivePart.read s = none :=
    FivePart.read_eq_none htrim (name.not_mem (by decide)) (by decide) (by decide)
  have hown : read s = some (.of "npm" "npmjs" none name.text version.text) := by
    unfold read
    split
    · next cs hcs =>
      -- A name does not start like a scope.
      have hat : '@' ∈ name.chars := by
        rw [htrim] at hcs
        cases hname : name.chars with
        | nil => exact absurd hname name.chars_ne_nil
        | cons c rest =>
          rw [hname, List.cons_append] at hcs
          rw [(List.cons.inj hcs).1]
          exact List.mem_cons_self
      exact absurd hat (name.not_mem (by decide))
    · rw [htrim, readNamed_words]
  refine ComponentId.read_of_first [.fivePart, .packageUrl, .maven] rfl ?_ hown
  simp [Notation.read, hfive, PackageUrl.read_eq_none (Or.inl hcolon), Maven.read_eq_none hcolon]

/-- Only this notation reads a name with a scope before it. -/
theorem read_scoped_words {scope name version : PlainWord} {s : String}
    (text : s.toList = '@' :: (scope.chars ++ '/' :: (name.chars ++ '@' :: version.chars))) :
    ComponentId.read s =
      .located (.of "npm" "npmjs" (some ("@" ++ scope.text)) name.text version.text) := by
  have htrim : Text.trimChars s.toList =
      '@' :: (scope.chars ++ '/' :: (name.chars ++ '@' :: version.chars)) := by
    rw [text]
    apply Text.trimChars_of_free
    simp only [List.forall_mem_append, List.forall_mem_cons]
    exact ⟨by decide, scope.isBlank_of_mem, by decide, name.isBlank_of_mem, by decide,
      version.isBlank_of_mem⟩
  have hcolon : ':' ∉ Text.trimChars s.toList := by
    have hscope : ':' ∉ scope.chars := scope.not_mem (by decide)
    have hname : ':' ∉ name.chars := name.not_mem (by decide)
    have hversion : ':' ∉ version.chars := version.not_mem (by decide)
    simp [htrim, hscope, hname, hversion]
  have hfive : FivePart.read s = none := by
    rw [← List.nil_append ('@' :: _)] at htrim
    exact FivePart.read_eq_none htrim List.not_mem_nil (by decide) (by decide)
  have hown : read s =
      some (.of "npm" "npmjs" (some ("@" ++ scope.text)) name.text version.text) := by
    have hcut : Text.cutFirst '/' (scope.chars ++ '/' :: (name.chars ++ '@' :: version.chars)) =
        some (scope.chars, name.chars ++ '@' :: version.chars) :=
      Text.cutFirst_append (scope.not_mem (by decide)) _
    unfold read
    simp only [htrim, hcut, Option.bind_eq_bind, Option.bind_some, PlainWord.isEmpty_chars,
      all_isNameChar, readNamed_words, PlainWord.ofList_at_cons, Bool.not_false, Bool.and_self,
      if_true]
  refine ComponentId.read_of_first [.fivePart, .packageUrl, .maven] rfl ?_ hown
  simp [Notation.read, hfive, PackageUrl.read_eq_none (Or.inl hcolon), Maven.read_eq_none hcolon]

end Npm

end Clearance
