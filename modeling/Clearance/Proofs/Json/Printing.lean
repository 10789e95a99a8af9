import Clearance.Json.Reader
import Clearance.Json.Writer
import Mathlib

/-!
# Reading printed JSON

A value that is printed on one line is read as the same value (`read?_print`), as far as it is made
of strings, arrays and objects.

What is printed is followed through the two stages of reading. The text makes the tokens of the
value before any other text (`Writes`), and from these tokens a reader gets the value wherever one
may come, if there is room for what nests in it (`Makes`). Both are put together along the value, so
that a value is printable if its parts are.
-/

set_option autoImplicit false

namespace Clearance.Json

/-! ## Tokens of printed text -/

namespace Token

/-- A control character is read from the escape with its two digits. -/
theorem codeUnit?_hexDigitLower {n : Nat} (h : n < 0x20) :
    codeUnit? '0' '0' (hexDigitLower (n / 16)) (hexDigitLower n) = some n := by
  have hall : ∀ n < 0x20,
      codeUnit? '0' '0' (hexDigitLower (n / 16)) (hexDigitLower n) = some n := by
    decide
  exact hall n h

/-- A character is read from its escaped form. -/
theorem stringBody?_escapeChar (c : Char) (rest : List Char) :
    stringBody? (escapeChar c ++ rest) =
      (stringBody? rest).map fun parts => (c :: parts.1, parts.2) := by
  by_cases hletter : c ∈ ['"', '\\', '\x08', '\x0c', '\n', '\r', '\t']
  · simp only [List.mem_cons, List.not_mem_nil, or_false] at hletter
    rcases hletter with rfl | rfl | rfl | rfl | rfl | rfl | rfl <;>
      simp [escapeChar, stringBody?, escaped?]
  · simp only [List.mem_cons, List.not_mem_nil, or_false, not_or] at hletter
    by_cases hcontrol : c.toNat < 0x20
    · have htrailing : isTrailing c.toNat = false := by simp [isTrailing]; omega
      have hleading : isLeading c.toNat = false := by simp [isLeading]; omega
      simp [escapeChar, hletter, hcontrol, stringBody?, codeUnit?_hexDigitLower hcontrol, htrailing,
        hleading]
    · have hplain : escapeChar c = [c] := by simp [escapeChar, hletter, hcontrol]
      rw [hplain, List.singleton_append, stringBody?.eq_def]
      split <;> simp_all

/-- A string is read from its escaped form up to the closing quote. -/
theorem stringBody?_flatMap (cs rest : List Char) :
    stringBody? (cs.flatMap escapeChar ++ '"' :: rest) = some (cs, rest) := by
  induction cs with
  | nil => rfl
  | cons c cs ih =>
    rw [List.flatMap_cons, List.append_assoc, stringBody?_escapeChar, ih]
    rfl

/-- More rounds than are needed do no harm. -/
theorem tokens?_of_le {rounds more : ℕ} {cs : List Char} {ts : List Token}
    (h : tokens? rounds cs = some ts) (le : rounds ≤ more) : tokens? more cs = some ts := by
  induction rounds generalizing more cs ts with
  | zero =>
    cases cs with
    | nil =>
      rw [← h]
      cases more <;> rfl
    | cons c cs => cases h
  | succ rounds ih =>
    cases cs with
    | nil =>
      rw [← h]
      cases more <;> rfl
    | cons c cs =>
      obtain ⟨more, rfl⟩ : ∃ k, more = k + 1 := ⟨more - 1, by omega⟩
      rw [tokens?] at h ⊢
      split at h
      · next hspace =>
        rw [if_pos hspace]
        exact ih h (by omega)
      · next hspace =>
        rw [if_neg hspace]
        simp only [Option.bind_eq_bind, Option.bind_eq_some_iff, Option.map_eq_some_iff] at h ⊢
        obtain ⟨⟨t, rest⟩, hnext, us, hus, rfl⟩ := h
        exact ⟨(t, rest), hnext, us, ih hus (by omega), rfl⟩

/-- The tokens of a text are its next token and those of the rest. -/
theorem ofChars?_of_next? {c : Char} {cs rest : List Char} {t : Token} {ts : List Token}
    (next : next? c cs = some (t, rest)) (space : isSpace c = false)
    (short : rest.length ≤ cs.length) (h : ofChars? rest = some ts) :
    ofChars? (c :: cs) = some (t :: ts) := by
  have hrest : tokens? cs.length rest = some ts := tokens?_of_le h short
  rw [ofChars?, List.length_cons, tokens?, if_neg (by simp [space])]
  simp [next, hrest]

end Token

/-- The text makes the tokens, before any other text. -/
def Writes (text : List Char) (ts : List Token) : Prop :=
  ∀ rest us, Token.ofChars? rest = some us → Token.ofChars? (text ++ rest) = some (ts ++ us)

/-- Texts after each other make the tokens of both. -/
theorem Writes.append {text more : List Char} {ts us : List Token} (h : Writes text ts)
    (h' : Writes more us) : Writes (text ++ more) (ts ++ us) := by
  intro rest vs hrest
  rw [List.append_assoc, List.append_assoc]
  exact h _ _ (h' _ _ hrest)

/-- A mark makes its token. -/
theorem writes_mark {c : Char} {t : Token} (mark : Token.ofChar? c = some t)
    (space : Token.isSpace c = false) : Writes [c] [t] := by
  intro rest us hrest
  have hnext : Token.next? c rest = some (t, rest) := by
    rw [Token.next?, mark]
  exact Token.ofChars?_of_next? hnext space (Nat.le_refl _) hrest

/-- A quoted string makes its token. -/
theorem writes_quote (s : String) : Writes (quote s) [.string s] := by
  intro rest us hrest
  have htext : quote s ++ rest = '"' :: (s.toList.flatMap escapeChar ++ '"' :: rest) := by
    simp [quote]
  have hnext : Token.next? '"' (s.toList.flatMap escapeChar ++ '"' :: rest) =
      some (.string s, rest) := by
    have hmark : Token.ofChar? '"' = none := rfl
    rw [Token.next?, hmark]
    dsimp only
    rw [if_pos rfl, Token.stringBody?_flatMap, Option.map_some, String.ofList_toList]
  have hshort : rest.length ≤ (s.toList.flatMap escapeChar ++ '"' :: rest).length := by
    rw [List.length_append, List.length_cons]
    omega
  rw [htext]
  exact Token.ofChars?_of_next? hnext (by decide) hshort hrest

/-- A separator stands before every part but the first. -/
theorem joinWith_cons (separator part : List Char) (parts : List (List Char)) :
    joinWith separator (part :: parts) = part ++ parts.flatMap (separator ++ ·) := by
  induction parts generalizing part with
  | nil => simp [joinWith]
  | cons next parts ih =>
    have hrest := ih next
    rw [joinWith] at hrest ⊢
    rw [List.intersperse_cons_cons, List.flatten_cons, List.flatten_cons, hrest, List.flatMap_cons,
      List.append_assoc]

/-- The items of an array are written one by one. -/
theorem itemChars_eq_map (items : List Value) : itemChars items = items.map Value.chars := by
  induction items with
  | nil => rfl
  | cons item items ih => rw [itemChars, ih, List.map_cons]

/-- The fields of an object are written one by one, each with its name. -/
theorem fieldChars_eq_map (fields : List (String × Value)) :
    fieldChars fields = fields.map fun field => quote field.1 ++ ':' :: field.2.chars := by
  induction fields with
  | nil => rfl
  | cons field fields ih => rw [fieldChars, ih, List.map_cons]

/-! ## Values from tokens -/

/-- From the tokens a reader gets the value, wherever one may come and `depth` more levels have
room. -/
def Makes (depth : ℕ) (ts : List Token) (v : Value) : Prop :=
  ∀ frames : List Frame, frames.length + depth ≤ maxNesting →
    ts.foldlM Reader.step? ⟨frames, .value⟩ = some ⟨frames, .after v⟩

/-- The printed value makes tokens from which a reader gets it again. -/
def Printable (depth : ℕ) (v : Value) : Prop := ∃ ts, Writes v.chars ts ∧ Makes depth ts v

/-- A string that is printed is read again. -/
theorem printable_string (depth : ℕ) (s : String) : Printable depth (.string s) :=
  ⟨[.string s], writes_quote s, fun _ _ => rfl⟩

/-- Where the first item of an array may come, a value is read as anywhere else. -/
theorem foldlM_firstItem {frames frames' : List Frame} {ts : List Token} {v : Value}
    (h : ts.foldlM Reader.step? ⟨frames, .value⟩ = some ⟨frames', .after v⟩) :
    ts.foldlM Reader.step? ⟨frames, .firstItem⟩ = some ⟨frames', .after v⟩ := by
  cases ts with
  | nil => cases h
  | cons t ts =>
    rw [List.foldlM_cons] at h ⊢
    cases t with
    | closeArray => cases h
    | _ => exact h

section items

variable {depth : ℕ}

/-- What stands behind an item of an array: the other items and the bracket. -/
theorem exists_items {items : List Value} (h : ∀ v ∈ items, Printable depth v) :
    ∃ ts, Writes ((items.flatMap fun v => ',' :: v.chars) ++ [']']) ts ∧
      ∀ (frames : List Frame) (before : List Value) (v : Value),
        frames.length + depth < maxNesting →
        ts.foldlM Reader.step? ⟨.array before :: frames, .after v⟩ =
          some ⟨frames, .after (.array (before.reverse ++ v :: items))⟩ := by
  induction items with
  | nil =>
    refine ⟨[.closeArray], writes_mark rfl rfl, fun frames before v _ => ?_⟩
    have hitems : (v :: before).reverse = before.reverse ++ [v] := List.reverse_cons
    rw [← hitems]
    rfl
  | cons item items ih =>
    obtain ⟨⟨us, hus, hmakes⟩, hitems⟩ := List.forall_mem_cons.1 h
    obtain ⟨ts, hts, hrest⟩ := ih hitems
    refine ⟨.comma :: (us ++ ts), ?_, fun frames before v room => ?_⟩
    · have hwrites := (writes_mark (c := ',') rfl rfl).append (hus.append hts)
      simpa using hwrites
    · have hitem : us.foldlM Reader.step? ⟨.array (v :: before) :: frames, .value⟩ =
          some ⟨.array (v :: before) :: frames, .after item⟩ := by
        apply hmakes
        rw [List.length_cons]
        omega
      have hcomma : Reader.step? ⟨.array before :: frames, .after v⟩ .comma =
          some ⟨.array (v :: before) :: frames, .value⟩ := rfl
      rw [List.foldlM_cons, hcomma, Option.bind_eq_bind, Option.bind_some, List.foldlM_append,
        hitem, Option.bind_eq_bind, Option.bind_some, hrest frames (v :: before) item room,
        List.reverse_cons, List.append_assoc, List.singleton_append]

/-- An array is read again if its items are. -/
theorem Printable.array {items : List Value} (h : ∀ v ∈ items, Printable depth v) :
    Printable (depth + 1) (.array items) := by
  have hopen {frames : List Frame} (room : frames.length + (depth + 1) ≤ maxNesting) :
      Reader.step? ⟨frames, .value⟩ .openArray = some ⟨.array [] :: frames, .firstItem⟩ := by
    have hroom : frames.length < maxNesting := by omega
    simp [Reader.step?, Reader.value?, Reader.enter?, hroom]
  cases items with
  | nil =>
    refine ⟨[.openArray, .closeArray], ?_, fun frames room => ?_⟩
    · exact (writes_mark (c := '[') rfl rfl).append (writes_mark (c := ']') rfl rfl)
    · rw [List.foldlM_cons, hopen room]
      rfl
  | cons item items =>
    obtain ⟨⟨us, hus, hmakes⟩, hitems⟩ := List.forall_mem_cons.1 h
    obtain ⟨ts, hts, hrest⟩ := exists_items hitems
    refine ⟨.openArray :: (us ++ ts), ?_, fun frames room => ?_⟩
    · have hchars : (Value.array (item :: items)).chars =
          ['['] ++ (item.chars ++ ((items.flatMap fun v => ',' :: v.chars) ++ [']'])) := by
        simp [Value.chars, itemChars_eq_map, joinWith_cons, List.flatMap_map]
      rw [hchars]
      exact (writes_mark (c := '[') rfl rfl).append (hus.append hts)
    · have hitem : us.foldlM Reader.step? ⟨.array [] :: frames, .value⟩ =
          some ⟨.array [] :: frames, .after item⟩ := by
        apply hmakes
        rw [List.length_cons]
        omega
      rw [List.foldlM_cons, hopen room, Option.bind_eq_bind, Option.bind_some, List.foldlM_append,
        foldlM_firstItem hitem, Option.bind_eq_bind, Option.bind_some,
        hrest frames [] item (by omega), List.reverse_nil, List.nil_append]

end items

/-! ## Objects -/

/-- The names of the fields are in order, and each is there once. -/
def Ordered (fields : List (String × Value)) : Prop := fields.Pairwise (·.1 < ·.1)

/-- A field whose name is behind all others comes last. -/
theorem put_of_ordered {fields : List (String × Value)} {name : String} {v : Value}
    (h : ∀ field ∈ fields, field.1 < name) : put name v fields = fields ++ [(name, v)] := by
  induction fields with
  | nil => rfl
  | cons field fields ih =>
    obtain ⟨hfield, hfields⟩ := List.forall_mem_cons.1 h
    rw [put, if_neg (String.lt_asymm hfield), if_pos hfield, ih hfields, List.cons_append]

section fields

variable {depth : ℕ}

/-- A field as it is printed. -/
def fieldText (field : String × Value) : List Char := quote field.1 ++ ':' :: field.2.chars

/-- A field makes its name, a colon and the tokens of its value. -/
theorem writes_field {field : String × Value} {ts : List Token} (h : Writes field.2.chars ts) :
    Writes (fieldText field) (.string field.1 :: .colon :: ts) := by
  have hwrites := (writes_quote field.1).append ((writes_mark (c := ':') rfl rfl).append h)
  simpa [fieldText] using hwrites

/-- What stands behind a field of an object: the other fields and the bracket. -/
theorem exists_fields {fields : List (String × Value)}
    (h : ∀ field ∈ fields, Printable depth field.2) :
    ∃ ts, Writes ((fields.flatMap fun field => ',' :: fieldText field) ++ ['\x7d']) ts ∧
      ∀ (frames : List Frame) (before : List (String × Value)) (name : String) (v : Value),
        Ordered (before ++ (name, v) :: fields) → frames.length + depth < maxNesting →
        ts.foldlM Reader.step? ⟨.object before name :: frames, .after v⟩ =
          some ⟨frames, .after (.object (before ++ (name, v) :: fields))⟩ := by
  -- In an ordered object every field is put behind those that are there already.
  have hput {before : List (String × Value)} {name : String} {v : Value}
      {fields : List (String × Value)} (ordered : Ordered (before ++ (name, v) :: fields)) :
      put name v before = before ++ [(name, v)] :=
    put_of_ordered fun field hfield =>
      (List.pairwise_append.1 ordered).2.2 field hfield (name, v) List.mem_cons_self
  induction fields with
  | nil =>
    refine ⟨[.closeObject], writes_mark rfl rfl, fun frames before name v ordered _ => ?_⟩
    rw [← hput ordered]
    rfl
  | cons field fields ih =>
    obtain ⟨⟨us, hus, hmakes⟩, hfields⟩ := List.forall_mem_cons.1 h
    obtain ⟨ts, hts, hrest⟩ := ih hfields
    refine ⟨.comma :: .string field.1 :: .colon :: (us ++ ts), ?_,
      fun frames before name v ordered room => ?_⟩
    · have hwrites := (writes_mark (c := ',') rfl rfl).append ((writes_field hus).append hts)
      simpa using hwrites
    · have hcomma : Reader.step? ⟨.object before name :: frames, .after v⟩ .comma =
          some ⟨frames, .field (before ++ [(name, v)])⟩ := by
        rw [← hput ordered]
        rfl
      have hname (fields : List (String × Value)) :
          Reader.step? ⟨frames, .field fields⟩ (.string field.1) =
            some ⟨frames, .colon fields field.1⟩ := rfl
      have hcolon (fields : List (String × Value)) :
          Reader.step? ⟨frames, .colon fields field.1⟩ .colon =
            some ⟨.object fields field.1 :: frames, .value⟩ := rfl
      have hvalue : us.foldlM Reader.step?
          ⟨.object (before ++ [(name, v)]) field.1 :: frames, .value⟩ =
          some ⟨.object (before ++ [(name, v)]) field.1 :: frames, .after field.2⟩ := by
        apply hmakes
        rw [List.length_cons]
        omega
      have hordered : Ordered ((before ++ [(name, v)]) ++ (field.1, field.2) :: fields) := by
        rw [List.append_assoc]
        exact ordered
      simp only [List.foldlM_cons, List.foldlM_append, hcomma, hname, hcolon, hvalue,
        Option.bind_eq_bind, Option.bind_some]
      rw [hrest frames _ field.1 field.2 hordered room, List.append_assoc, List.singleton_append]

/-- An object is read again if its names are in order and its values are read again. -/
theorem Printable.object {fields : List (String × Value)} (ordered : Ordered fields)
    (h : ∀ field ∈ fields, Printable depth field.2) : Printable (depth + 1) (.object fields) := by
  have hopen {frames : List Frame} (room : frames.length + (depth + 1) ≤ maxNesting) :
      Reader.step? ⟨frames, .value⟩ .openObject = some ⟨frames, .firstField⟩ := by
    have hroom : frames.length < maxNesting := by omega
    simp [Reader.step?, Reader.value?, Reader.enter?, hroom]
  cases fields with
  | nil =>
    refine ⟨[.openObject, .closeObject], ?_, fun frames room => ?_⟩
    · exact (writes_mark (c := '\x7b') rfl rfl).append (writes_mark (c := '\x7d') rfl rfl)
    · rw [List.foldlM_cons, hopen room]
      rfl
  | cons field fields =>
    obtain ⟨⟨us, hus, hmakes⟩, hfields⟩ := List.forall_mem_cons.1 h
    obtain ⟨ts, hts, hrest⟩ := exists_fields hfields
    refine ⟨.openObject :: .string field.1 :: .colon :: (us ++ ts), ?_, fun frames room => ?_⟩
    · have hchars : (Value.object (field :: fields)).chars =
          ['\x7b'] ++ (fieldText field ++
            ((fields.flatMap fun field => ',' :: fieldText field) ++ ['\x7d'])) := by
        simp [Value.chars, fieldChars_eq_map, joinWith_cons, List.flatMap_map, fieldText]
      rw [hchars]
      exact (writes_mark (c := '\x7b') rfl rfl).append ((writes_field hus).append hts)
    · have hname : Reader.step? ⟨frames, .firstField⟩ (.string field.1) =
          some ⟨frames, .colon [] field.1⟩ := rfl
      have hcolon : Reader.step? ⟨frames, .colon [] field.1⟩ .colon =
          some ⟨.object [] field.1 :: frames, .value⟩ := rfl
      have hvalue : us.foldlM Reader.step? ⟨.object [] field.1 :: frames, .value⟩ =
          some ⟨.object [] field.1 :: frames, .after field.2⟩ := by
        apply hmakes
        rw [List.length_cons]
        omega
      simp only [List.foldlM_cons, List.foldlM_append, hopen room, hname, hcolon, hvalue,
        Option.bind_eq_bind, Option.bind_some]
      exact hrest frames [] field.1 field.2 ordered (by omega)

end fields

/-- What is printed is read as the same value. -/
theorem read?_print {depth : ℕ} {v : Value} (h : Printable depth v) (shallow : depth ≤ maxNesting) :
    Value.read? v.print = some v := by
  obtain ⟨ts, hwrites, hmakes⟩ := h
  have htokens : Token.ofChars? v.chars = some ts := by
    have hall := hwrites [] [] rfl
    rwa [List.append_nil, List.append_nil] at hall
  have hread := hmakes [] (by simpa using shallow)
  rw [Value.read?, Value.print, String.toList_ofList, htokens, Option.bind_eq_bind,
    Option.bind_some, Reader.start, hread]
  rfl

end Clearance.Json
