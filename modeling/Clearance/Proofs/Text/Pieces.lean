import Clearance.Text.Basic
import Clearance.Text.Percent
import Mathlib.Data.List.DropRight

/-!
# Trimming, cutting and decoding written text

What the readers of notations do to text that was put together from pieces. Trimming stops at the
first and the last character that is no blank, so it leaves pieces without blanks alone
(`trimChars_append`); a cut at a separator finds the pieces again if those on its side are free of
the separator (`cutFirst_append`, `cutLast_append`, `upTo_append`); decoding leaves pieces without
a percent sign as they are (`percentDecode?_of_free`).
-/

set_option autoImplicit false

namespace Clearance.Text

/-! ## Trimming -/

/-- Where there is no blank nothing is dropped. -/
theorem dropWhile_isBlank {cs : List Char} (free : ∀ c ∈ cs, isBlank c = false) :
    cs.dropWhile isBlank = cs := by
  cases cs with
  | nil => rfl
  | cons c cs => exact List.dropWhile_cons_of_neg (by simp [free c List.mem_cons_self])

/-- What is not blank stays, whatever is cut off behind it. -/
theorem trimRight_append {cs : List Char} (free : ∀ c ∈ cs, isBlank c = false)
    (tail : List Char) :
    trimRight (cs ++ tail) = cs ++ trimRight tail := by
  have hback : cs.reverse.dropWhile isBlank = cs.reverse :=
    dropWhile_isBlank fun c hc => free c (List.mem_reverse.1 hc)
  rw [trimRight, trimRight, List.reverse_append, List.dropWhile_append]
  split
  · next hblank =>
    rw [List.isEmpty_iff] at hblank
    rw [hback, hblank, List.reverse_reverse, List.reverse_nil, List.append_nil]
  · rw [List.reverse_append, List.reverse_reverse]

/-- Text that begins without blanks is trimmed behind its beginning. -/
theorem trimChars_append {cs : List Char} (nonempty : cs ≠ [])
    (free : ∀ c ∈ cs, isBlank c = false) (tail : List Char) :
    trimChars (cs ++ tail) = cs ++ trimRight tail := by
  have hfront : (cs ++ tail).dropWhile isBlank = cs ++ tail := by
    rw [List.dropWhile_append, dropWhile_isBlank free, if_neg (by simpa using nonempty)]
  rw [trimChars, hfront, trimRight_append free]

/-- A text without blanks is not trimmed. -/
theorem trimChars_of_free {cs : List Char} (free : ∀ c ∈ cs, isBlank c = false) :
    trimChars cs = cs := by
  have hback : cs.reverse.dropWhile isBlank = cs.reverse :=
    dropWhile_isBlank fun c hc => free c (List.mem_reverse.1 hc)
  rw [trimChars, dropWhile_isBlank free, trimRight, hback, List.reverse_reverse]

/-- Blanks at the end are cut off. -/
theorem trimRight_append_blank {vs : List Char} (blank : ∀ c ∈ vs, isBlank c = true)
    (cs : List Char) : trimRight (cs ++ vs) = trimRight cs := by
  rw [trimRight, List.reverse_append, List.dropWhile_append_of_pos, trimRight]
  exact fun c hc => blank c (List.mem_reverse.1 hc)

/-- Blanks around a text are trimmed with its own. -/
theorem trimChars_blank_append {us vs : List Char} (blank : ∀ c ∈ us ++ vs, isBlank c = true)
    (cs : List Char) : trimChars (us ++ cs ++ vs) = trimChars cs := by
  rw [List.forall_mem_append] at blank
  rw [trimChars, List.append_assoc, List.dropWhile_append_of_pos blank.1, List.dropWhile_append,
    trimChars]
  split
  · next hall =>
    have hvs : vs.dropWhile isBlank = [] := List.dropWhile_eq_nil_iff.2 blank.2
    rw [hvs, List.isEmpty_iff.1 hall]
  · exact trimRight_append_blank blank.2 _

/-- Blank text is what nothing is left of. -/
theorem isBlankText_iff {s : String} : isBlankText s = true ↔ trim s = "" := by
  rw [isBlankText, List.all_eq_true, trim, String.ofList_eq_empty_iff, trimChars]
  constructor
  · intro hblank
    rw [List.dropWhile_eq_nil_iff.2 hblank]
    rfl
  · intro hnone
    rw [trimRight, List.reverse_eq_nil_iff, List.dropWhile_eq_nil_iff] at hnone
    apply List.dropWhile_eq_nil_iff.1
    by_contra hsome
    -- A rest of the front would begin with a character that is not blank.
    have hhead := List.head_dropWhile_not isBlank hsome
    rw [hnone _ (List.mem_reverse.2 (List.head_mem hsome))] at hhead
    cases hhead

/-- What is trimmed is not trimmed again. -/
theorem trimRight_trimRight (cs : List Char) : trimRight (trimRight cs) = trimRight cs := by
  rw [trimRight, trimRight, List.reverse_reverse, List.dropWhile_idempotent]

/-- Trimmed text has no blanks at its ends. -/
@[simp] theorem trimChars_trimChars (cs : List Char) : trimChars (trimChars cs) = trimChars cs := by
  rw [trimChars, trimChars]
  cases hfront : cs.dropWhile isBlank with
  | nil => rfl
  | cons c rest =>
    -- The first character that is left is no blank and stays where it is.
    have hc : ∀ d ∈ [c], isBlank d = false := by
      have hhead := List.head?_dropWhile_not isBlank cs
      rw [hfront] at hhead
      simpa using hhead
    have hcons (tail : List Char) : trimRight (c :: tail) = c :: trimRight tail :=
      trimRight_append hc tail
    rw [hcons, List.dropWhile_cons_of_neg (by simp [hc c]), hcons, trimRight_trimRight]

/-! ## Cutting -/

/-- A text is cut at the separator if there is none before that. -/
theorem cutFirst_append {sep : Char} {before : List Char} (free : sep ∉ before)
    (after : List Char) : cutFirst sep (before ++ sep :: after) = some (before, after) := by
  induction before with
  | nil => simp [cutFirst]
  | cons c before ih =>
    rw [List.mem_cons, not_or] at free
    simp [cutFirst, Ne.symm free.1, ih free.2]

/-- A text without the separator is not cut. -/
theorem cutFirst_eq_none {sep : Char} {cs : List Char} (free : sep ∉ cs) :
    cutFirst sep cs = none := by
  induction cs with
  | nil => rfl
  | cons c cs ih =>
    rw [List.mem_cons, not_or] at free
    simp [cutFirst, Ne.symm free.1, ih free.2]

/-- A text without the separator is not cut, from behind either. -/
theorem cutLast_eq_none {sep : Char} {cs : List Char} (free : sep ∉ cs) :
    cutLast sep cs = none := by
  induction cs with
  | nil => rfl
  | cons c cs ih =>
    rw [List.mem_cons, not_or] at free
    simp [cutLast, Ne.symm free.1, ih free.2]

/-- A text is cut at the separator if there is none behind that. -/
theorem cutLast_append {sep : Char} (before : List Char) {after : List Char}
    (free : sep ∉ after) : cutLast sep (before ++ sep :: after) = some (before, after) := by
  induction before with
  | nil => simp [cutLast, cutLast_eq_none free]
  | cons c before ih => simp [cutLast, ih]

/-- A text without the separator is taken as a whole. -/
theorem upTo_append {sep : Char} {cs : List Char} (free : sep ∉ cs) (tail : List Char) :
    upTo sep (cs ++ tail) = cs ++ upTo sep tail := by
  unfold upTo
  rw [List.takeWhile_append_of_pos]
  intro c hc
  simp only [bne_iff_ne, ne_eq]
  rintro rfl
  exact free hc

/-- The part up to the separator holds only characters of the text. -/
theorem mem_of_mem_upTo {sep c : Char} {cs : List Char} (h : c ∈ upTo sep cs) : c ∈ cs :=
  (List.takeWhile_sublist _).subset h

/-- Nothing is dropped where the end of the text does not hold the character. -/
theorem dropTrailing_append {c : Char} (before : List Char) {cs : List Char} (nonempty : cs ≠ [])
    (free : c ∉ cs) : dropTrailing c (before ++ cs) = before ++ cs := by
  obtain ⟨init, last, rfl⟩ : ∃ init last, cs = init ++ [last] :=
    ⟨_, _, (List.dropLast_append_getLast nonempty).symm⟩
  have hlast : last ≠ c := by
    rintro rfl
    exact free (List.mem_append_right _ List.mem_cons_self)
  rw [dropTrailing, ← List.append_assoc, List.reverse_append, List.reverse_singleton,
    List.singleton_append, List.dropWhile_cons_of_neg (by simpa using hlast), List.reverse_cons,
    List.reverse_reverse]

/-! ## Decoding -/

/-- A text without `%` stands for its own bytes. -/
theorem percentBytes_of_free {cs : List Char} (free : '%' ∉ cs) :
    percentBytes cs = cs.flatMap String.utf8EncodeChar := by
  induction cs with
  | nil => rfl
  | cons c cs ih =>
    rw [List.mem_cons, not_or] at free
    rw [percentBytes.eq_def]
    simp [Ne.symm free.1, ih free.2]

/-- A text is decoded from its encoding. -/
theorem ofUtf8?_encode (cs : List Char) :
    ofUtf8? (cs.flatMap String.utf8EncodeChar) = some (String.ofList cs) :=
  dif_pos (String.ofList cs).isValidUTF8

/-- A text without `%` is decoded to itself. -/
theorem percentDecode?_of_free {cs : List Char} (free : '%' ∉ cs) :
    percentDecode? cs = some (String.ofList cs) := by
  rw [percentDecode?, percentBytes_of_free free, ofUtf8?_encode]

/-- An escaped `@` stands for one. -/
theorem percentDecode?_at {cs : List Char} (free : '%' ∉ cs) :
    percentDecode? ('%' :: '4' :: '0' :: cs) = some (String.ofList ('@' :: cs)) := by
  have hbytes : percentBytes ('%' :: '4' :: '0' :: cs) =
      ('@' :: cs).flatMap String.utf8EncodeChar := by
    have hbyte : hexByte? '4' '0' = some 0x40 := by decide
    have hat : String.utf8EncodeChar '@' = [0x40] := by decide
    rw [percentBytes, if_pos rfl]
    simp only [hbyte, percentBytes_of_free free, List.flatMap_cons, hat, List.singleton_append]
  rw [percentDecode?, hbytes, ofUtf8?_encode]

end Clearance.Text
