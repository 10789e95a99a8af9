import Clearance.Text.Basic

/-!
# Tokens of a license expression

The words and parentheses that a license expression is written with.

* A *word* is a longest run of ASCII letters, digits, `-` and `.` that starts with a letter or
  a digit. It must also end with one.
* `AND` and `OR`, in any case, are keywords and `WITH` is not supported; every other word is
  the name of a license.
* A `+` directly after a word means "or later" and belongs to names only.

White space separates tokens and is otherwise ignored. Any other character makes the text no
license expression at all.
-/

set_option autoImplicit false

namespace Clearance.License

/-- A token of a license expression. -/
inductive Token where
  | name (text : String)
  /-- A name followed by `+`. -/
  | laterName (text : String)
  | and
  | or
  | opening
  | closing
  deriving DecidableEq, Repr

namespace Token

/-- Characters that a word may start and end with. -/
def isWordEnd (c : Char) : Bool := c.isAlphanum

/-- Characters of a word. -/
def isWordChar (c : Char) : Bool := c.isAlphanum || c == '-' || c == '.'

/-- The word spells `keyword`, given in upper case, in some mixture of cases. -/
def spells (word : List Char) (keyword : String) : Bool :=
  word.map Char.toUpper == keyword.toList

/-- The token that a word makes, where `later` says that a `+` follows it. -/
def ofWord? (word : List Char) (later : Bool) : Option Token :=
  if !word.getLast?.any isWordEnd then none
  else if spells word "AND" then (if later then none else some .and)
  else if spells word "OR" then (if later then none else some .or)
  else if spells word "WITH" then none
  else if later then some (.laterName (String.ofList word))
  else some (.name (String.ofList word))

/-- The characters without a `+` at their start. -/
def dropPlus : List Char → List Char
  | '+' :: cs => cs
  | cs => cs

/-- What is left without a plus sign is no longer than before. -/
theorem length_dropPlus_le (cs : List Char) : (dropPlus cs).length ≤ cs.length := by
  unfold dropPlus
  split <;> simp

/-- The tokens of a text, or `none` if it holds anything else. -/
def ofChars? : List Char → Option (List Token)
  | [] => some []
  | c :: cs =>
    if Text.isBlank c then ofChars? cs
    else if c = '(' then (ofChars? cs).map (opening :: ·)
    else if c = ')' then (ofChars? cs).map (closing :: ·)
    else if isWordEnd c then
      let rest := cs.dropWhile isWordChar
      match ofWord? (c :: cs.takeWhile isWordChar) (rest.head? == some '+') with
      | none => none
      | some token => (ofChars? (dropPlus rest)).map (token :: ·)
    else none
termination_by cs => cs.length
decreasing_by
  all_goals simp only [List.length_cons]
  · omega
  · omega
  · omega
  · have hdrop := length_dropPlus_le (cs.dropWhile isWordChar)
    have hsub := (List.dropWhile_sublist (l := cs) isWordChar).length_le
    omega

end Token

end Clearance.License
