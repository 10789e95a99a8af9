import Clearance.Proofs.Text.Pieces

/-!
# Encoded text

Bytes are UTF-8 if they are the bytes of some characters, one character after the other
(`ofUtf8?_eq_some_iff`). They can be cut where a character begins, and then both parts are UTF-8 or
the whole is not (`ofUtf8?_append`). Bytes below 128 are characters of their own.

Text with escapes stands for the bytes that are escaped in it, so decoding undoes encoding
(`percentDecode?_percentEncode`).
-/

set_option autoImplicit false

namespace Clearance.Text

/-! ## UTF-8 -/

/-- Bytes are a text exactly if they are its encoding. -/
theorem ofUtf8?_eq_some_iff {bytes : List UInt8} {s : String} :
    ofUtf8? bytes = some s ↔ bytes = s.toList.flatMap String.utf8EncodeChar := by
  constructor
  · intro h
    unfold ofUtf8? String.fromUTF8? at h
    split at h
    · next hvalid =>
      obtain rfl := Option.some.inj h
      have hbytes : (String.fromUTF8 _ hvalid).toByteArray = bytes.toByteArray := rfl
      rw [← String.utf8Encode_toList] at hbytes
      exact (List.toByteArray_inj.1 hbytes).symm
    · cases h
  · rintro rfl
    rw [ofUtf8?_encode, String.ofList_toList]

/-- Bytes are a text exactly if they are valid UTF-8. -/
theorem isSome_ofUtf8?_iff {bytes : List UInt8} :
    (ofUtf8? bytes).isSome = true ↔ bytes.toByteArray.IsValidUTF8 := by
  unfold ofUtf8? String.fromUTF8?
  split <;> simp_all

/-- Text is cut between two characters where what follows begins like a character. -/
theorem exists_append_of_encode_eq {cs : List Char} {a b : List UInt8}
    (h : cs.flatMap String.utf8EncodeChar = a ++ b)
    (boundary : ∀ x ∈ b.head?, x.IsUTF8FirstByte) :
    ∃ before after, cs = before ++ after ∧ a = before.flatMap String.utf8EncodeChar ∧
      b = after.flatMap String.utf8EncodeChar := by
  induction cs generalizing a with
  | nil =>
    obtain ⟨rfl, rfl⟩ := List.append_eq_nil_iff.1 h.symm
    exact ⟨[], [], rfl, rfl, rfl⟩
  | cons c cs ih =>
    rw [List.flatMap_cons, List.append_eq_append_iff] at h
    rcases h with ⟨rest, rfl, hrest⟩ | ⟨rest, hc, rfl⟩
    · obtain ⟨before, after, rfl, rfl, rfl⟩ := ih hrest
      exact ⟨c :: before, after, rfl, rfl, rfl⟩
    · cases rest with
      | nil =>
        rw [List.append_nil] at hc
        exact ⟨[c], cs, rfl, by simp [hc], rfl⟩
      | cons x rest =>
        -- A byte within a character is no first byte.
        have hlength : a.length < (String.utf8EncodeChar c).length := by simp [hc]
        have hx : (String.utf8EncodeChar c)[a.length] = x := by simp [hc]
        have hfirst := boundary x rfl
        rw [← hx, UInt8.isUTF8FirstByte_getElem_utf8EncodeChar, List.length_eq_zero_iff] at hfirst
        subst hfirst
        exact ⟨[], c :: cs, rfl, rfl, by rw [List.flatMap_cons, hc]; rfl⟩

/-- Bytes that are cut between two characters are decoded one part after the other. -/
theorem ofUtf8?_append {a b : List UInt8} (boundary : ∀ x ∈ b.head?, x.IsUTF8FirstByte) :
    ofUtf8? (a ++ b) = (ofUtf8? a).bind fun s => (ofUtf8? b).map (s ++ ·) := by
  cases hwhole : ofUtf8? (a ++ b) with
  | some s =>
    obtain ⟨before, after, hs, rfl, rfl⟩ :=
      exists_append_of_encode_eq (ofUtf8?_eq_some_iff.1 hwhole).symm boundary
    rw [ofUtf8?_encode, ofUtf8?_encode, Option.bind_some, Option.map_some, ← String.ofList_append,
      ← hs, String.ofList_toList]
  | none =>
    cases ha : ofUtf8? a with
    | none => rfl
    | some s =>
      cases hb : ofUtf8? b with
      | none => rfl
      | some t =>
        obtain rfl := ofUtf8?_eq_some_iff.1 ha
        obtain rfl := ofUtf8?_eq_some_iff.1 hb
        rw [← List.flatMap_append, ofUtf8?_encode] at hwhole
        cases hwhole

/-- The encoding of a text starts with the first byte of a character. -/
theorem isUTF8FirstByte_head?_encode (cs : List Char) :
    ∀ x ∈ (cs.flatMap String.utf8EncodeChar).head?, x.IsUTF8FirstByte := by
  intro x hx
  cases cs with
  | nil => cases hx
  | cons c cs =>
    obtain ⟨first, rest, hc⟩ := List.exists_cons_of_ne_nil (String.utf8EncodeChar_ne_nil (c := c))
    have hfirst : first.IsUTF8FirstByte := by
      have hzero := UInt8.isUTF8FirstByte_getElem_zero_utf8EncodeChar (c := c)
      simpa only [hc, List.getElem_cons_zero] using hzero
    rw [List.flatMap_cons, hc, List.cons_append, List.head?_cons, Option.mem_some_iff] at hx
    rwa [← hx]

/-- Bytes behind whole characters are UTF-8 if all of them together are. -/
theorem ofUtf8?_encode_append (cs : List Char) (b : List UInt8) :
    ofUtf8? (cs.flatMap String.utf8EncodeChar ++ b) =
      (ofUtf8? b).map (String.ofList cs ++ ·) := by
  cases hb : ofUtf8? b with
  | some s =>
    obtain rfl := ofUtf8?_eq_some_iff.1 hb
    rw [← List.flatMap_append, ofUtf8?_encode, Option.map_some, String.ofList_append,
      String.ofList_toList]
  | none =>
    induction cs with
    | nil => simpa using hb
    | cons c cs ih =>
      rw [Option.map_none, ← Option.not_isSome_iff_eq_none, isSome_ofUtf8?_iff] at ih ⊢
      intro hvalid
      rw [List.flatMap_cons, List.append_assoc, List.toByteArray_append] at hvalid
      have hchar : [c].utf8Encode = (String.utf8EncodeChar c).toByteArray := by
        simp [List.utf8Encode]
      rw [← hchar, ByteArray.isValidUTF8_utf8Encode_singleton_append_iff] at hvalid
      exact ih hvalid

/-- The encoding of a text behind other bytes is decoded to that text. -/
theorem ofUtf8?_append_encode (a : List UInt8) (cs : List Char) :
    ofUtf8? (a ++ cs.flatMap String.utf8EncodeChar) =
      (ofUtf8? a).map (· ++ String.ofList cs) := by
  rw [ofUtf8?_append (isUTF8FirstByte_head?_encode cs), ofUtf8?_encode]
  cases ofUtf8? a <;> rfl

/-! ## Escapes -/

/-- A digit is read from its hexadecimal form. -/
theorem hexValue?_hexDigit {n : Nat} (h : n < 16) : hexValue? (hexDigit n) = some n := by
  have hall : ∀ n < 16, hexValue? (hexDigit n) = some n := by decide
  exact hall n h

/-- A byte is read from its two hexadecimal digits. -/
theorem hexByte?_hexDigit (b : UInt8) :
    hexByte? (hexDigit (b.toNat / 16)) (hexDigit (b.toNat % 16)) = some b := by
  have hb : b.toNat < 256 := b.toNat_lt
  have hhigh : b.toNat / 16 < 16 := by omega
  have hlow : b.toNat % 16 < 16 := Nat.mod_lt _ (by omega)
  have hvalue : 16 * (b.toNat / 16) + b.toNat % 16 = b.toNat := Nat.div_add_mod ..
  simp only [hexByte?, hexValue?_hexDigit hhigh, hexValue?_hexDigit hlow, Option.bind_eq_bind,
    Option.bind_some, Option.pure_def, hvalue, UInt8.ofNat_toNat]

/-- An escaped byte is decoded to the byte. -/
theorem percentBytes_percentByte (b : UInt8) (rest : List Char) :
    percentBytes (percentByte b ++ rest) = b :: percentBytes rest := by
  show percentBytes ('%' :: hexDigit (b.toNat / 16) :: hexDigit (b.toNat % 16) :: rest) = _
  rw [percentBytes, if_pos rfl]
  simp only [hexByte?_hexDigit]

/-- A character other than `%` is decoded to its bytes. -/
theorem percentBytes_cons {c : Char} (h : c ≠ '%') (cs : List Char) :
    percentBytes (c :: cs) = String.utf8EncodeChar c ++ percentBytes cs := by
  rw [percentBytes.eq_def]
  simp only [if_neg h]

/-- Escaped bytes are decoded to the bytes. -/
theorem percentBytes_flatMap (bytes : List UInt8) (rest : List Char) :
    percentBytes (bytes.flatMap percentByte ++ rest) = bytes ++ percentBytes rest := by
  induction bytes with
  | nil => rfl
  | cons b bytes ih =>
    rw [List.flatMap_cons, List.append_assoc, percentBytes_percentByte, ih, List.cons_append]

section percentEncode

variable {stands : Char → Bool}

/-- A percent sign that stands for itself could begin an escape. -/
theorem percentBytes_percentEncode (escaped : stands '%' = false) (cs rest : List Char) :
    percentBytes (percentEncode stands cs ++ rest) =
      cs.flatMap String.utf8EncodeChar ++ percentBytes rest := by
  induction cs with
  | nil => rfl
  | cons c cs ih =>
    have hcons : percentEncode stands (c :: cs) =
        (if stands c then [c] else (String.utf8EncodeChar c).flatMap percentByte) ++
          percentEncode stands cs := List.flatMap_cons
    rw [hcons, List.append_assoc, List.flatMap_cons, List.append_assoc, ← ih]
    by_cases hc : stands c = true
    · have hne : c ≠ '%' := by
        rintro rfl
        rw [escaped] at hc
        cases hc
      rw [if_pos hc, List.singleton_append, percentBytes_cons hne]
    · rw [if_neg hc, percentBytes_flatMap]

/-- Decoding undoes the encoding, if `%` itself is escaped. -/
theorem percentDecode?_percentEncode (escaped : stands '%' = false) (cs : List Char) :
    percentDecode? (percentEncode stands cs) = some (String.ofList cs) := by
  have hbytes := percentBytes_percentEncode escaped cs []
  rw [List.append_nil, percentBytes, List.append_nil] at hbytes
  rw [percentDecode?, hbytes, ofUtf8?_encode]

/-- Hexadecimal digits are letters and digits. -/
theorem isAlphanum_hexDigit {n : Nat} (h : n < 16) : (hexDigit n).isAlphanum = true := by
  have hall : ∀ n < 16, (hexDigit n).isAlphanum = true := by decide
  exact hall n h

/-- An escaped byte is written in `%`, letters and digits. -/
theorem mem_percentByte {b : UInt8} {c : Char} (h : c ∈ percentByte b) :
    c = '%' ∨ c.isAlphanum = true := by
  have hb : b.toNat < 256 := b.toNat_lt
  simp only [percentByte, List.mem_cons, List.not_mem_nil, or_false] at h
  rcases h with rfl | rfl | rfl
  · exact Or.inl rfl
  · exact Or.inr (isAlphanum_hexDigit (by omega))
  · exact Or.inr (isAlphanum_hexDigit (by omega))

/-- Encoded text holds what stands for itself, percent signs and hexadecimal digits. -/
theorem mem_percentEncode {cs : List Char} {c : Char} (h : c ∈ percentEncode stands cs) :
    stands c = true ∨ c = '%' ∨ c.isAlphanum = true := by
  obtain ⟨d, -, hd⟩ := List.mem_flatMap.1 h
  by_cases hstands : stands d = true
  · rw [if_pos hstands, List.mem_singleton] at hd
    rw [hd]
    exact Or.inl hstands
  · rw [if_neg hstands] at hd
    obtain ⟨b, -, hb⟩ := List.mem_flatMap.1 hd
    exact Or.inr (mem_percentByte hb)

/-- The encoding of a text that is not empty is not empty. -/
theorem percentEncode_ne_nil {cs : List Char} (h : cs ≠ []) : percentEncode stands cs ≠ [] := by
  intro hnil
  obtain ⟨c, rest, rfl⟩ := List.exists_cons_of_ne_nil h
  have hhead := List.flatMap_eq_nil_iff.1 hnil c List.mem_cons_self
  by_cases hc : stands c = true
  · rw [if_pos hc] at hhead
    cases hhead
  · rw [if_neg hc] at hhead
    obtain ⟨b, bytes, hbytes⟩ := List.exists_cons_of_ne_nil (String.utf8EncodeChar_ne_nil (c := c))
    rw [hbytes] at hhead
    cases hhead

end percentEncode

end Clearance.Text
