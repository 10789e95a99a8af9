import Clearance.License.Expr
import Clearance.License.Token

/-!
# Reading license expressions

The grammar over tokens, in which `AND` binds tighter than `OR` and both group to the left:

* an *alternative* is a sequence of conjunctions with `OR` between them;
* a *conjunction* is a sequence of atoms with `AND` between them;
* an *atom* is a name, a name with `+`, or an alternative in parentheses.

Parentheses nest at most `maxDepth` deep and an expression has at most `maxTokens` tokens.
`parse` never fails: text outside the grammar or the limits is `Expr.invalid`.

The functions that read one phrase answer it together with the tokens that follow it.
-/

set_option autoImplicit false

namespace Clearance.License

/-- The deepest nesting of parentheses. -/
def maxDepth : Nat := 64

/-- The largest number of tokens. Every operator makes one level of the tree, so this bounds the
depth of the tree as well. -/
def maxTokens : Nat := 1024

namespace Parser

/-- Reads one phrase at the start of the tokens. -/
abbrev Phrase := List Token → Option (Expr × List Token)

/-- Continues `left` with an operand after each `operator`. Every round uses up a token, so as
many rounds as there are tokens suffice. -/
def chainTail (operand : Phrase) (operator : Token) (combine : Expr → Expr → Expr) :
    Nat → Expr → Phrase
  | 0, left, tokens => some (left, tokens)
  | _ + 1, left, [] => some (left, [])
  | rounds + 1, left, token :: tokens =>
    if token = operator then
      match operand tokens with
      | none => none
      | some (right, rest) => chainTail operand operator combine rounds (combine left right) rest
    else some (left, token :: tokens)

/-- Operands with `operator` between them, combined to the left. -/
def chain (operand : Phrase) (operator : Token) (combine : Expr → Expr → Expr) : Phrase :=
  fun tokens =>
    match operand tokens with
    | none => none
    | some (first, rest) => chainTail operand operator combine rest.length first rest

/-- A name, or what `inner` reads in parentheses. -/
def atom (inner : Phrase) : Phrase
  | .name text :: tokens => some (.license text, tokens)
  | .laterName text :: tokens => some (.orLater text, tokens)
  | .opening :: tokens =>
    match inner tokens with
    | some (e, .closing :: rest) => some (e, rest)
    | _ => none
  | _ => none

/-- Conjunctions with `OR` between them, where `inner` reads what stands in parentheses. -/
def alternativeOf (inner : Phrase) : Phrase :=
  chain (chain (atom inner) .and .both) .or .either

/-- An alternative whose parentheses nest at most `depth` deep. -/
def alternative : (depth : Nat) → Phrase
  | 0 => alternativeOf fun _ => none
  | depth + 1 => alternativeOf (alternative depth)

/-- The expression that all of the tokens make. -/
def ofTokens? (tokens : List Token) : Option Expr :=
  if tokens.length > maxTokens then none
  else
    match alternative maxDepth tokens with
    | some (e, []) => some e
    | _ => none

end Parser

/-- The license expression that a text denotes. -/
def parse (s : String) : Expr :=
  ((Token.ofChars? s.toList).bind Parser.ofTokens?).getD .invalid

end Clearance.License
