import Gatehouse.Chain.World
import Gatehouse.Config.Basic
import Gatehouse.Forward.Hops
import Gatehouse.Forward.Origin
import Gatehouse.Forward.Target

/-!
# Forwarding

The innermost handler of the gate asks the backend. What it asks for is a
function of the request and the configuration, `Forwarder.outgoing?`; how it
asks is left to a `Connector`, which brings back a response or none. Bodies
pass through as they are, in both directions.

A client learns of a failure only that there was one: an unreachable
backend is a 502, with a page of the operator's if there is one.
-/

namespace Gatehouse.Forward

open Http Chain

/-- Sends a request and waits for the response. There is none if the
backend cannot be reached or breaks the rules of the protocol. -/
abbrev Connector (m : Type → Type) := Request → m (Option Response)

/-- **How to forward.** -/
structure Forwarder where
  target : Target
  /-- Whether forwarding headers of the client are kept. -/
  trustIncoming : Bool
  /-- The page for an unreachable backend. -/
  page : Option Bytes
deriving DecidableEq, Inhabited

namespace Forwarder

/-- **The request that the backend gets**, if the request can be addressed
to it. -/
def outgoing? (f : Forwarder) (r : Request) : Option Request :=
  (f.target.uriFor? r.uri).map fun uri =>
    { r with
      uri := uri
      headers := withOrigin (withoutHops r.headers) r.peer f.trustIncoming }

/-- The response for an unreachable backend. -/
def badGateway (f : Forwarder) : Response :=
  match f.page with
  | some page =>
    ⟨.badGateway, Headers.empty.append "content-type" (Bytes.ofString "text/html; charset=utf-8"),
      .ofBytes page⟩
  | none => .text .badGateway "Bad gateway"

/-- The response of the backend as the client gets it. -/
def incoming (a : Response) : Response :=
  { a with headers := withoutHops a.headers }

/-- Asks the backend. -/
def forward {m : Type → Type} [Monad m] (f : Forwarder) (w : World m)
    (connect : Connector m) : Handler m := fun r => do
  match f.outgoing? r with
  | none =>
    w.report (.uriUnusable r.uri.toText)
    return .text .badRequest "Bad request"
  | some out =>
    w.report (.proxying out.method.name out.uri.toText)
    match ← connect out with
    | some a => return incoming a
    | none =>
      w.report .backendFailed
      return f.badGateway

/-- Whether a request has a path. Others, such as a bare authority or `*`,
are not forwarded. -/
def hasPath (r : Request) : Bool := r.uri.path.toList.head? = some '/'

/-- **The innermost handler.** -/
def handle {m : Type → Type} [Monad m] (f : Forwarder) (w : World m)
    (connect : Connector m) : Handler m := fun r =>
  if hasPath r then f.forward w connect r else return .bare .notFound

end Forwarder

end Gatehouse.Forward
