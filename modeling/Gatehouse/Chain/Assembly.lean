import Gatehouse.Chain.BodyLimit
import Gatehouse.Chain.CacheLayer
import Gatehouse.Chain.Compression
import Gatehouse.Chain.CountryGuard
import Gatehouse.Chain.RequestLog
import Gatehouse.Chain.RequestStart
import Gatehouse.Chain.Sendfile
import Gatehouse.Chain.Timeout
import Gatehouse.Chain.Trace
import Gatehouse.Config.Basic

/-!
# Assembling the chain

Which layers stand in front of the backend is decided once, from the
configuration and from whether there is a country filter. A layer that is
switched off is left out; the others keep their order:

    trace, request_log, timeout, country_filter, body_limit, compression,
    request_start, sendfile, cache, proxy

The order is told twice, and the two tellings are independent: `layers`
lists the names from the outside, and `build` wraps the innermost handler
from the inside.
-/

namespace Gatehouse.Chain

open Http Cache

/-- The choice of layers for one chain. -/
structure Plan where
  /-- Seconds that a request may take. -/
  requestSecs : Nat
  logRequests : Bool
  filter : Option Country.Filter
  /-- The largest request body; zero means there is no limit. -/
  maxRequestBody : Nat
  gzipCompression : Bool
  xSendfile : Bool
  cacheEnabled : Bool

namespace Plan

/-- The plan of a configuration, with a country filter where there is
one. -/
def ofConfig (c : Config) (filter : Option Country.Filter) : Plan where
  requestSecs := c.timeouts.requestSecs
  logRequests := c.features.logRequests
  filter := filter
  maxRequestBody := c.limits.maxRequestBody
  gzipCompression := c.features.gzipCompression
  xSendfile := c.features.xSendfile
  cacheEnabled := c.cache.enabled

/-- **The names of the layers**, outermost first. -/
def layers (p : Plan) : List String :=
  ["trace"]
    ++ (if p.logRequests then ["request_log"] else [])
    ++ ["timeout"]
    ++ (if p.filter.isSome then ["country_filter"] else [])
    ++ (if p.maxRequestBody > 0 then ["body_limit"] else [])
    ++ (if p.gzipCompression then ["compression"] else [])
    ++ ["request_start"]
    ++ (if p.xSendfile then ["sendfile"] else [])
    ++ (if p.cacheEnabled then ["cache"] else [])
    ++ ["proxy"]

/-- Wraps a handler if a condition holds. -/
def wrapIf {m : Type → Type} (b : Bool) (layer : Handler m → Handler m)
    (inner : Handler m) : Handler m :=
  if b then layer inner else inner

/-- **The chain around a handler**, built from the inside. -/
def build {m : Type → Type} [Monad m] (p : Plan) (w : World m)
    (inner : Handler m) : Handler m :=
  let h := inner
  let h := wrapIf p.cacheEnabled (caching w) h
  let h := wrapIf p.xSendfile (sendfile w) h
  let h := requestStart w h
  let h := wrapIf p.gzipCompression compression h
  let h := wrapIf (decide (p.maxRequestBody > 0)) (bodyLimit p.maxRequestBody) h
  let h := match p.filter with
    | some f => countryGuard w f h
    | none => h
  let h := timeout w p.requestSecs h
  let h := wrapIf p.logRequests (requestLog w) h
  trace w h

end Plan

/-! ## The rim

Where a handler hands its response over, two rules of the protocol are
enforced: a successful `CONNECT` has no body, and a response of known
length says so, even where the answer to `HEAD` then loses its body. -/

/-- Whether a response opens a tunnel. -/
def opensTunnel (method : Method) (a : Response) : Bool :=
  method = Method.connect && a.status.isSuccess

/-- A response that opens a tunnel loses any body it announces or is known
to have. -/
def closeTunnelBody (a : Response) : Response :=
  if a.headers.contains "content-length" || a.headers.contains "transfer-encoding"
      || (a.body.sized && !a.body.data.isEmpty) then
    { a with body := Body.empty }
  else a

/-- The rule for tunnels, around a handler. -/
def tunnelRule {m : Type → Type} [Monad m] (next : Handler m) : Handler m :=
  fun r => do
    let a ← next r
    return if opensTunnel r.method a then closeTunnelBody a else a

/-- The response with its length, where it is known and not stated. -/
def withLength (a : Response) : Response :=
  if a.headers.contains "content-length" then a
  else match a.body.exactSize? with
    | some n => a.withHeader "content-length" (numeral n)
    | none => a

/-- The response as it leaves towards the client. -/
def conclude (method : Method) (a : Response) : Response :=
  if opensTunnel method a then closeTunnelBody a
  else
    let a := withLength a
    if method = Method.head then { a with body := Body.empty } else a

/-- **A complete chain**: the layers of a plan around a handler, between the
rims. -/
def Plan.serve {m : Type → Type} [Monad m] (p : Plan) (w : World m)
    (inner : Handler m) : Handler m := fun r => do
  let a ← p.build w (tunnelRule inner) r
  return conclude r.method a

end Gatehouse.Chain
