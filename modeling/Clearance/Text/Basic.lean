/-!
# Blanks, cuts and numerals

What is done to text before it is read as anything.

* Blank characters are those of the Unicode property `White_Space`. Text is trimmed of them at both
  ends before it is read as a component id or as a policy entry, and they separate the words of a
  license expression.
* `cutFirst` and `cutLast` split a list of characters at the first or the last occurrence of a
  separator, which belongs to neither part. Both answer `none` when the separator is absent. `upTo`
  keeps what stands before the first occurrence, or everything.
* A numeral denotes a natural number: decimal digits, of which there must be one, with a plus sign
  in front of them if one likes. `readBelow?` refuses numbers that reach a limit, which is how
  numbers of a fixed width are read.
-/

set_option autoImplicit false

namespace Clearance.Text

/-! ## White space -/

/-- A character of the Unicode property `White_Space` (25 code points). -/
def isBlank (c : Char) : Bool :=
  let n := c.toNat
  (0x9 ≤ n && n ≤ 0xD) || n == 0x20 || n == 0x85 || n == 0xA0 || n == 0x1680 ||
    (0x2000 ≤ n && n ≤ 0x200A) || n == 0x2028 || n == 0x2029 || n == 0x202F ||
    n == 0x205F || n == 0x3000

/-- The characters of `cs` without the blanks at its end. -/
def trimRight (cs : List Char) : List Char :=
  (cs.reverse.dropWhile isBlank).reverse

/-- The characters of `cs` without the blanks at either end. -/
def trimChars (cs : List Char) : List Char :=
  trimRight (cs.dropWhile isBlank)

/-- The text `s` without the blanks at either end. -/
def trim (s : String) : String :=
  String.ofList (trimChars s.toList)

/-- Text that holds no character other than blanks. -/
def isBlankText (s : String) : Bool :=
  s.toList.all isBlank

/-! ## Cutting at a separator -/

/-- The parts before and after the first `sep`. -/
def cutFirst (sep : Char) : List Char → Option (List Char × List Char)
  | [] => none
  | c :: cs =>
    if c = sep then some ([], cs)
    else (cutFirst sep cs).map fun parts => (c :: parts.1, parts.2)

/-- The parts before and after the last `sep`. -/
def cutLast (sep : Char) : List Char → Option (List Char × List Char)
  | [] => none
  | c :: cs =>
    match cutLast sep cs with
    | some parts => some (c :: parts.1, parts.2)
    | none => if c = sep then some ([], cs) else none

/-- What stands before the first `sep`, or all of `cs` where there is none. -/
def upTo (sep : Char) (cs : List Char) : List Char :=
  cs.takeWhile (· != sep)

/-- The characters of `cs` without any `c` at its end. -/
def dropTrailing (c : Char) (cs : List Char) : List Char :=
  (cs.reverse.dropWhile (· == c)).reverse

/-- A first cut puts the text back together around the separator, which the first part lacks. -/
theorem cutFirst_eq_some {sep : Char} {cs before after : List Char}
    (h : cutFirst sep cs = some (before, after)) :
    cs = before ++ sep :: after ∧ sep ∉ before := by
  induction cs generalizing before with
  | nil => simp [cutFirst] at h
  | cons c cs ih =>
    by_cases hc : c = sep
    · simp only [cutFirst, hc, if_true, Option.some.injEq, Prod.mk.injEq] at h
      obtain ⟨rfl, rfl⟩ := h
      simp [hc]
    · simp only [cutFirst, hc, if_false, Option.map_eq_some_iff] at h
      obtain ⟨⟨b, a⟩, hcut, heq⟩ := h
      simp only [Prod.mk.injEq] at heq
      obtain ⟨rfl, rfl⟩ := heq
      obtain ⟨hjoin, hfree⟩ := ih hcut
      exact ⟨by rw [hjoin]; rfl, by simp [hfree, Ne.symm hc]⟩

/-! ## Decimal numerals -/

/-- The number that decimal digits make. -/
def valueOfDigits (digits : List Char) : Nat :=
  digits.foldl (fun n c => 10 * n + (c.toNat - '0'.toNat)) 0

/-- The characters without a plus sign at their start. -/
def dropSign : List Char → List Char
  | '+' :: cs => cs
  | cs => cs

/-- The number that decimal digits with perhaps a plus sign in front denote. -/
def readNatural? (cs : List Char) : Option Nat :=
  let digits := dropSign cs
  if digits.isEmpty || !digits.all Char.isDigit then none else some (valueOfDigits digits)

/-- The number that a text denotes, if it is below `limit`. -/
def readBelow? (limit : Nat) (cs : List Char) : Option Nat :=
  (readNatural? cs).filter (· < limit)

end Clearance.Text
