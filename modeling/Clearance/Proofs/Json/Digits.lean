import Clearance.Decimal.Shortest
import Clearance.Json.Reader
import Clearance.Text.Basic
import Mathlib

/-!
# Decimal digits

The digits of a natural number are read in two ways. As a text they denote the number, up to a limit
that the reader sets (`Text.readBelow?_digitsOf`). As a JSON document they are an integer if it fits
in 64 bits, and otherwise a binary64 number, if there is one (`Json.Value.read?_digitsOf`).
-/

set_option autoImplicit false

namespace Clearance

open Binary64

namespace Binary64

/-- A natural number is written in digits. -/
theorem isDigit_of_mem_digitsOf {n : ℕ} {c : Char} (h : c ∈ digitsOf n) : c.isDigit = true :=
  Nat.isDigit_of_mem_toDigits (by decide) le_rfl h

/-- Every natural number has a digit. -/
theorem digitsOf_ne_nil (n : ℕ) : digitsOf n ≠ [] := Nat.toDigits_ne_nil

/-- Only the digits of zero begin with a zero. -/
theorem eq_zero_of_head?_digitsOf {n : ℕ} (h : (digitsOf n).head? = some '0') : n = 0 := by
  induction n using Nat.strong_induction_on with
  | h n ih =>
    by_cases hsmall : n < 10
    · rw [digitsOf, Nat.toDigits_of_lt_base hsmall] at h
      exact Nat.digitChar_eq_zero.1 (Option.some.inj h)
    · have hcut : digitsOf n = digitsOf (n / 10) ++ [(n % 10).digitChar] :=
        Nat.toDigits_of_base_le (by decide) (not_lt.1 hsmall)
      rw [hcut, List.head?_append_of_ne_nil _ (digitsOf_ne_nil _)] at h
      have hzero := ih (n / 10) (by omega) h
      omega

end Binary64

namespace Text

/-- A natural number is written without a sign. -/
theorem dropSign_digitsOf (n : ℕ) : dropSign (digitsOf n) = digitsOf n := by
  obtain ⟨c, cs, hdigits⟩ := List.exists_cons_of_ne_nil (digitsOf_ne_nil n)
  have hc : c.isDigit = true := isDigit_of_mem_digitsOf (hdigits ▸ List.mem_cons_self)
  rw [hdigits]
  unfold dropSign
  split
  · next heq =>
    cases heq
    cases hc
  · rfl

/-- A natural number is read from its digits. -/
theorem readNatural?_digitsOf (n : ℕ) : readNatural? (digitsOf n) = some n := by
  have hall : (digitsOf n).all Char.isDigit = true :=
    List.all_eq_true.2 fun c hc => isDigit_of_mem_digitsOf hc
  have hvalue : valueOfDigits (digitsOf n) = n := Nat.ofDigitChars_ten_toDigits
  simp [readNatural?, dropSign_digitsOf, digitsOf_ne_nil, hall, hvalue]

/-- A natural number is read from its digits if it is below the limit. -/
theorem readBelow?_digitsOf (limit n : ℕ) :
    readBelow? limit (digitsOf n) = if n < limit then some n else none := by
  simp only [readBelow?, readNatural?_digitsOf, Option.filter_some, decide_eq_true_eq]

end Text

namespace Json

/-- The numeral that is made of the digits of a number alone. -/
def Numeral.ofDigits (n : ℕ) : Numeral where
  negative := false
  whole := digitsOf n
  fraction := none
  exponent := none

/-- The digits of a natural number are read as a numeral without fraction and exponent. -/
theorem Numeral.read?_digitsOf (n : ℕ) : read? false (digitsOf n) = some (ofDigits n, []) := by
  have htake : (digitsOf n).takeWhile Char.isDigit = digitsOf n :=
    List.takeWhile_eq_self_iff.2 fun c hc => isDigit_of_mem_digitsOf hc
  have hdrop : (digitsOf n).dropWhile Char.isDigit = [] :=
    List.dropWhile_eq_nil_iff.2 fun c hc => isDigit_of_mem_digitsOf hc
  have hdigits : digits? (digitsOf n) = some (digitsOf n, []) := by
    unfold digits?
    rw [htake, hdrop]
    split
    · next hnil => exact absurd hnil (digitsOf_ne_nil n)
    · rfl
  have hplain : ¬((digitsOf n).head? = some '0' ∧ (digitsOf n).length ≠ 1) := by
    rintro ⟨hhead, hlength⟩
    rw [eq_zero_of_head?_digitsOf hhead] at hlength
    exact hlength rfl
  simp [read?, hdigits, hplain, fraction?, exponent?, ofDigits]

/-- Below the capacity of 64 bits a numeral of digits is an integer, from there on it is none. -/
theorem Numeral.integer?_ofDigits (n : ℕ) :
    (ofDigits n).integer? = if n < 2 ^ 64 then some (n : ℤ) else none := by
  have hvalue : valueOf (digitsOf n) = n := Nat.ofDigitChars_ten_toDigits
  have hleast : leastInteger ≤ (n : ℤ) := le_trans (by decide) (Int.natCast_nonneg n)
  have hgreatest : (n : ℤ) ≤ greatestInteger ↔ n < 2 ^ 64 := by
    have hlimit : greatestInteger = (2 ^ 64 : ℕ) - 1 := by decide
    omega
  simp [integer?, ofDigits, isPlain, hvalue, hleast, hgreatest]

/-- The digits of a natural number are one token. -/
theorem Token.ofChars?_digitsOf (n : ℕ) :
    ofChars? (digitsOf n) = (Numeral.ofDigits n).number?.map fun x => [.scalar (.number x)] := by
  obtain ⟨c, cs, hdigits⟩ := List.exists_cons_of_ne_nil (digitsOf_ne_nil n)
  have hc : c.isDigit = true := isDigit_of_mem_digitsOf (hdigits ▸ List.mem_cons_self)
  have hother {d : Char} (hd : d.isDigit = false) : c ≠ d := by
    rintro rfl
    rw [hd] at hc
    cases hc
  have hspace : isSpace c = false := by
    simp [isSpace, hother (d := ' ') rfl, hother (d := '\n') rfl, hother (d := '\t') rfl,
      hother (d := '\r') rfl]
  have hmark : ofChar? c = none := by
    unfold ofChar?
    split <;> first | cases hc | rfl
  have hnext : next? c cs =
      (Numeral.ofDigits n).number?.map fun x => (.scalar (.number x), []) := by
    have hminus : c ≠ '-' := hother rfl
    have hread := Numeral.read?_digitsOf n
    rw [hdigits] at hread
    rw [next?, hmark]
    dsimp only
    rw [if_neg (hother rfl), if_pos (Or.inr hc), if_neg hminus, beq_false_of_ne hminus, hread]
    cases hnumber : (Numeral.ofDigits n).number? with
    | none => simp [hnumber]
    | some x => simp [hnumber]
  rw [hdigits, ofChars?, List.length_cons, tokens?, hspace, hnext]
  cases (Numeral.ofDigits n).number? with
  | none => rfl
  | some x => cases cs <;> rfl

/-- The digits of a natural number are a text whose value is that number. -/
theorem Value.read?_digitsOf (n : ℕ) :
    read? (String.ofList (digitsOf n)) = (Numeral.ofDigits n).number?.map .number := by
  rw [read?, String.toList_ofList, Token.ofChars?_digitsOf]
  cases (Numeral.ofDigits n).number? with
  | none => rfl
  | some x => rfl

/-- As a JSON document the digits are a natural number again only as long as it fits in 64 bits. -/
theorem Value.exists_number_of_digitsOf {n : ℕ} {v : Value}
    (h : read? (String.ofList (digitsOf n)) = some v) :
    ∃ x, v = .number x ∧ (number x).natural? = if n < 2 ^ 64 then some n else none := by
  rw [read?_digitsOf, Option.map_eq_some_iff] at h
  obtain ⟨x, hx, rfl⟩ := h
  refine ⟨x, rfl, ?_⟩
  rw [Numeral.number?, Numeral.integer?_ofDigits] at hx
  by_cases hfits : n < 2 ^ 64
  · rw [if_pos hfits] at hx ⊢
    cases hx
    simp [natural?]
  · rw [if_neg hfits] at hx ⊢
    obtain ⟨magnitude, -, rfl⟩ := Option.map_eq_some_iff.1 hx
    rfl

end Json

end Clearance
