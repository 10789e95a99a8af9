/-!
# License expressions

A license expression combines license names with `AND` and `OR`. A name followed by `+` stands
for that license or a later one; no registry of license versions is consulted, so it is judged
by the name alone. Text that is not a license expression becomes `invalid`, which is never
approved.

`print` writes as few parentheses as the meaning needs, `printFull` one pair for every
combination.
-/

set_option autoImplicit false

namespace Clearance.License

/-- The meaning of a license expression. -/
inductive Expr where
  /-- One license. -/
  | license (name : String)
  /-- One license or a later version of it. -/
  | orLater (name : String)
  /-- Both operands must be approved. -/
  | both (left right : Expr)
  /-- At least one operand must be approved. -/
  | either (left right : Expr)
  /-- Text that is no license expression. -/
  | invalid
  deriving DecidableEq, Repr

namespace Expr

/-- Only `invalid` itself is not valid; a parsed expression never holds it inside. -/
def isValid : Expr → Bool
  | invalid => false
  | _ => true

/-- The expression is approved when `approves` holds of enough of its names. -/
def isApproved (approves : String → Bool) : Expr → Bool
  | license name => approves name
  | orLater name => approves name
  | both left right => left.isApproved approves && right.isApproved approves
  | either left right => left.isApproved approves || right.isApproved approves
  | invalid => false

/-- The written form with the fewest parentheses: around an `OR` that is an operand of an `AND`,
which is what `operand` says. -/
def printAs (operand : Bool) : Expr → String
  | license name => name
  | orLater name => name ++ "+"
  | both left right => left.printAs true ++ " AND " ++ right.printAs true
  | either left right =>
    let text := left.printAs false ++ " OR " ++ right.printAs false
    if operand then "(" ++ text ++ ")" else text
  | invalid => "<invalid>"

/-- The written form with the fewest parentheses. -/
def print (e : Expr) : String := e.printAs false

/-- The written form with parentheses around every combination. -/
def printFull : Expr → String
  | license name => name
  | orLater name => name ++ "+"
  | both left right => "(" ++ left.printFull ++ " AND " ++ right.printFull ++ ")"
  | either left right => "(" ++ left.printFull ++ " OR " ++ right.printFull ++ ")"
  | invalid => "<invalid>"

end Expr

end Clearance.License
