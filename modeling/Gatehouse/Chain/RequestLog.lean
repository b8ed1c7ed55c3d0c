import Gatehouse.Chain.World
import Gatehouse.Country.Client

/-!
# Reporting requests

The outermost optional layer reports every request once it is answered, and
counts it by method and status. What it shows of the request is what came
in, before any other layer touched it.
-/

namespace Gatehouse.Chain

open Http

/-- A header as reports show it: its first value, or a dash. -/
def shown (h : Headers) (name : String) : String := (h.text? name).getD "-"

/-- The report of a request and its response. -/
def requestLine (r : Request) (a : Response) : RequestLine where
  method := r.method.name
  path := r.uri.path
  status := a.status.code
  remoteAddress :=
    ((Country.clientAddress r.headers r.peer).map Address.toText).getD "-"
  userAgent := shown r.headers "user-agent"
  requestLength := shown r.headers "content-length"
  responseLength := shown a.headers "content-length"
  cache := shown a.headers "x-cache"

/-- **Reports and counts** every answered request. -/
def requestLog {m : Type → Type} [Monad m] (w : World m) (next : Handler m) :
    Handler m := fun r => do
  let a ← next r
  w.report (.request (requestLine r a))
  w.count (.requests r.method.name a.status.code)
  w.count .durations
  return a

end Gatehouse.Chain
