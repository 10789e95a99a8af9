import Clearance.Duration

/-!
# Provider failures

Why a call to a provider ended without an answer that can be used.
-/

set_option autoImplicit false

namespace Clearance

/-- Why a call to a provider failed. -/
inductive Failure where
  /-- The request could not be sent, or no reply came back. -/
  | transport
  /-- The reply has a status outside 200 to 299. -/
  | status (code : Nat)
  /-- The call took longer than it was given. -/
  | timeout (limit : Duration)
  /-- The body of the reply is not JSON. -/
  | malformed
  /-- The body of the reply is JSON, but not the object that was expected. -/
  | notAnObject
  deriving DecidableEq, Repr

namespace Failure

/-- The message for a failure. Three dots stand for details that the transport or the reader of
the body keeps to itself. -/
def message : Failure → String
  | transport => "transport error: ..."
  | status code => "provider answered with HTTP status " ++ toString code
  | timeout limit => "no answer within " ++ limit.text
  | malformed => "could not decode provider response: ..."
  | notAnObject => "could not decode provider response: expected a JSON object"

end Failure

end Clearance
