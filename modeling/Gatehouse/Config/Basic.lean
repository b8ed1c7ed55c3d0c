/-!
# Configuration

Everything an operator can set, by section. Every setting has a default, so
the empty configuration is complete; it need not be acceptable, which is
the matter of `Config.problems`.
-/

namespace Gatehouse

namespace Config

/-- Where the gate listens. -/
structure Listener where
  /-- The endpoint to bind to. -/
  bindAddress : String := "0.0.0.0:8080"
deriving DecidableEq, Inhabited

/-- The backend that requests are forwarded to. -/
structure Backend where
  /-- The absolute URL of the backend. -/
  targetUrl : String := "http://127.0.0.1:3000"
  /-- Whether forwarding headers of the client are kept. -/
  forwardHeaders : Bool := false
  /-- A page to answer with when the backend cannot be reached. -/
  badGatewayPage : Option String := none
deriving DecidableEq, Inhabited

/-- Limits on requests. -/
structure Limits where
  /-- The largest request body in bytes; zero means there is no limit. -/
  maxRequestBody : Nat := 0
deriving DecidableEq, Inhabited

/-- The response cache. -/
structure Cache where
  enabled : Bool := true
  /-- The largest body that is stored, in bytes. -/
  maxItemSize : Nat := 1048576
  /-- The bytes of all stored bodies together. -/
  capacity : Nat := 67108864
deriving DecidableEq, Inhabited

/-- Optional layers. -/
structure Features where
  /-- Serve files that the backend names in `X-Sendfile`. -/
  xSendfile : Bool := true
  /-- Compress responses. -/
  gzipCompression : Bool := true
  /-- Report every request. -/
  logRequests : Bool := true
deriving DecidableEq, Inhabited

/-- The country filter. -/
structure GeoIp where
  enabled : Bool := false
  /-- The country database; searched for in the usual places when unset. -/
  databasePath : Option String := none
  /-- The only countries to let pass; wins over the block list. -/
  allowCountries : List String := []
  /-- Countries to turn away. -/
  blockCountries : List String := []
deriving DecidableEq, Inhabited

/-- Time limits. -/
structure Timeouts where
  /-- Seconds for a request from its arrival to its response. -/
  requestSecs : Nat := 30
deriving DecidableEq, Inhabited

/-- The form of a log line. -/
inductive LogFormat where
  | pretty
  | json
deriving DecidableEq, Inhabited

/-- Logs and metrics. -/
structure Observability where
  /-- The level of events to report. -/
  logLevel : String := "info"
  logFormat : LogFormat := .pretty
  metricsEnabled : Bool := false
  /-- The endpoint of the metrics listener. -/
  metricsAddress : String := "0.0.0.0:9090"
deriving DecidableEq, Inhabited

end Config

/-- **A complete configuration.** -/
structure Config where
  listener : Config.Listener := {}
  backend : Config.Backend := {}
  limits : Config.Limits := {}
  cache : Config.Cache := {}
  features : Config.Features := {}
  geoip : Config.GeoIp := {}
  timeouts : Config.Timeouts := {}
  observability : Config.Observability := {}
deriving DecidableEq, Inhabited

/-- The configuration without any setting. -/
def Config.default : Config := {}

end Gatehouse
