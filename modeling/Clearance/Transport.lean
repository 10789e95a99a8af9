/-!
# Requests and replies

The providers reach their services through a transport: a function that takes a request and the
world, and returns the reply and the next world. Nothing is assumed about it, so what is said
about a provider holds for every network and every server.
-/

set_option autoImplicit false

namespace Clearance

universe u

/-- A request that posts a body. -/
structure Request where
  url : String
  contentType : String
  body : String
  accept : String := "application/json"
  userAgent : String := "license-resolver/0.1.0"
  deriving DecidableEq, Repr

/-- What a request leads to. -/
inductive Reply where
  /-- A reply with a status and a body. -/
  | answered (status : Nat) (body : String)
  /-- The request could not be sent, or no reply came back. -/
  | failed
  deriving DecidableEq, Repr

/-- A way to send requests in a world of type `σ`. -/
abbrev Transport (σ : Type u) := Request → σ → Reply × σ

namespace Transport

/-- A status that stands for success. -/
def isSuccess (status : Nat) : Bool := 200 ≤ status && status < 300

/-- The text of a body: a byte order mark at its start is no part of it. -/
def bodyText (body : String) : String :=
  match body.toList with
  | '\uFEFF' :: rest => String.ofList rest
  | _ => body

/-- A network on which no request is ever sent. -/
def unreachable {σ : Type u} : Transport σ := fun _ world => (.failed, world)

end Transport

end Clearance
