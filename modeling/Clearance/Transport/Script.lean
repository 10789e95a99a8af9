import Clearance.Text.Basic
import Clearance.Transport

/-!
# Scripted servers

A server whose replies are prepared: for each path a list that is used up reply by reply. When the
list of a path is used up, or a path has none, the reply says that nothing is there. The server
keeps the requests that reached it, so that a run can be examined afterwards.

A server that is down lets every request fail, and none reaches it.
-/

set_option autoImplicit false

namespace Clearance

/-- A server with prepared replies. -/
structure Script where
  /-- The address of the server; paths are appended to it. -/
  address : String
  /-- The server accepts requests. -/
  up : Bool
  /-- The replies that are left for each path. -/
  routes : List (String × List Reply)
  /-- The requests that reached the server, each with its path. -/
  served : List (String × Request)

namespace Script

/-- The reply where none is prepared. -/
def notFound : Reply := .answered 404 ""

/-- A reply as it is received: a status that forbids a body has none. -/
def received : Reply → Reply
  | .answered status body => .answered status (if status = 204 ∨ status = 304 then "" else body)
  | .failed => .failed

/-- The path of an address on this server, if it is one. A fragment is not sent. -/
def path? (s : Script) (url : String) : Option String :=
  let chars := Text.upTo '#' url.toList
  if s.address.toList.isPrefixOf chars then
    match chars.drop s.address.length with
    | [] => some "/"
    | '/' :: rest => some (String.ofList ('/' :: rest))
    | '?' :: rest => some (String.ofList ('/' :: '?' :: rest))
    | _ => none
  else none

/-- The routes after one reply for a path is used, and that reply. -/
def use (path : String) : List (String × List Reply) → Reply × List (String × List Reply)
  | [] => (notFound, [])
  | (route, replies) :: routes =>
    if route = path then
      match replies with
      | [] => (notFound, (route, []) :: routes)
      | reply :: rest => (received reply, (route, rest) :: routes)
    else
      let (reply, others) := use path routes
      (reply, (route, replies) :: others)

/-- The route that a path with a query belongs to. -/
def routeOf (path : String) : String := String.ofList (Text.upTo '?' path.toList)

/-- The scripted server as a transport. -/
def transport : Transport Script := fun request s =>
  match s.up, s.path? request.url with
  | true, some path =>
    let (reply, routes) := use (routeOf path) s.routes
    (reply, { s with routes, served := s.served ++ [(path, request)] })
  | _, _ => (.failed, s)

end Script

end Clearance
