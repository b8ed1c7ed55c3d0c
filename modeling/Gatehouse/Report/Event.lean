import Gatehouse.Address.Printer
import Gatehouse.Country.Policy
import Gatehouse.Country.Filter
import Gatehouse.Text.Quoted

/-!
# Events

Everything the gate reports about itself is an event. An event is kept as
what happened, and the four things a log line shows of it – level, source,
message and fields – are functions on it, so that no wording is repeated
where the event arises.
-/

namespace Gatehouse

open Country Text

/-- How serious an event is. -/
inductive Level where
  | error
  | warn
  | info
  | debug
  | trace
deriving DecidableEq, Inhabited

/-- The name of a level. -/
def Level.name : Level → String
  | .error => "ERROR"
  | .warn => "WARN"
  | .info => "INFO"
  | .debug => "DEBUG"
  | .trace => "TRACE"

/-- What the report of a request shows; a dash stands for what is absent or
cannot be shown. -/
structure RequestLine where
  method : String
  path : String
  status : Nat
  remoteAddress : String
  userAgent : String
  requestLength : String
  responseLength : String
  cache : String
deriving DecidableEq, Inhabited

/-- **Something to report.** -/
inductive Event where
  /-- A request was answered. -/
  | request (line : RequestLine)
  /-- A request was turned away by a list. -/
  | blocked (country : String) (address : Address) (list : PolicyList)
      (countries : List String)
  /-- The country of an address could not be looked up. -/
  | lookupFailed (address : Address) (error : LookupError)
  /-- There is no record for an address. -/
  | noRecord (address : Address)
  /-- The address of a client cannot be read. -/
  | addressUnreadable
  /-- A country code cannot be the value of a header. -/
  | countryUnwritable (country : String)
  /-- Both country lists are configured. -/
  | bothLists (allow block : List String)
  /-- The country filter is in place. -/
  | filterEnabled (policy : Policy)
  /-- The layers of the chain are in place. -/
  | chainAssembled (layers : List String)
  /-- The page for an unreachable backend cannot be read. -/
  | pageUnreadable (path : String)
  /-- The backend named no usable file. -/
  | sendfileInvalid
  /-- A file is served at the backend's request. -/
  | sendfileServing (path : String)
  /-- A stored response is served. -/
  | cacheHit (key : String)
  /-- A response was offered to the store. -/
  | cacheStore (key : String) (seconds : Nat) (stored : Bool)
  /-- A response could not be read into memory. -/
  | cacheUnbuffered (key : String)
  /-- A request cannot be addressed to the backend. -/
  | uriUnusable (uri : String)
  /-- A request goes to the backend. -/
  | proxying (method uri : String)
  /-- The backend did not answer. -/
  | backendFailed
  /-- The program starts. -/
  | starting (bindAddress target : String) (geoip : Bool)
  /-- The endpoint for metrics cannot be read. -/
  | metricsAddressUnreadable (address : String)
  /-- Metrics are being served. -/
  | metricsListening (address : String)
  /-- Metrics cannot be served. -/
  | metricsFailed (address : String)
  /-- A country database was opened. -/
  | databaseOpened (path databaseType : String) (buildEpoch : Nat)
  /-- The country database is in use. -/
  | databaseLoaded (path : String)
  /-- There is no usable country database. -/
  | databaseUnavailable (error : String)
  /-- A country database was given up. -/
  | databaseClosed (path : String)
  /-- The server accepts connections. -/
  | serverStarting (address : String)
  /-- The server finishes the requests it has. -/
  | serverDraining
  /-- The server has ended. -/
  | serverStopped
  /-- The program was asked to stop. -/
  | signalReceived (signal : String)
  /-- The listeners were told to stop. -/
  | shutdownTriggered (listeners : Nat)
  /-- The program ends. -/
  | shutdownComplete
deriving DecidableEq, Inhabited

/-- A value shown beside a message. -/
inductive FieldValue where
  | text (s : String)
  | number (n : Nat)
  | flag (b : Bool)
deriving DecidableEq, Inhabited

namespace Event

/-- How serious an event is. -/
def level : Event → Level
  | backendFailed => .error
  | metricsAddressUnreadable _ => .error
  | metricsFailed _ => .error
  | lookupFailed _ _ => .warn
  | bothLists _ _ => .warn
  | pageUnreadable _ => .warn
  | sendfileInvalid => .warn
  | cacheUnbuffered _ => .warn
  | uriUnusable _ => .warn
  | databaseUnavailable _ => .warn
  | noRecord _ => .debug
  | addressUnreadable => .debug
  | countryUnwritable _ => .debug
  | sendfileServing _ => .debug
  | cacheHit _ => .debug
  | cacheStore _ _ _ => .debug
  | proxying _ _ => .debug
  | databaseOpened _ _ _ => .debug
  | _ => .info

/-- The message of an event. -/
def message : Event → String
  | request _ => "Request"
  | blocked _ _ .allow _ => "Request blocked - country not in allow list"
  | blocked _ _ .block _ => "Request blocked - country in block list"
  | lookupFailed _ _ => "GeoIP lookup failed, allowing request"
  | noRecord _ => "No GeoIP record for address"
  | addressUnreadable =>
    "Client address not parseable, skipping country filter"
  | countryUnwritable _ => "Country code is not a valid header value"
  | bothLists _ _ => "Both country lists configured; the allow list takes "
      ++ "precedence and the block list is ignored"
  | filterEnabled _ => "Country filter enabled"
  | chainAssembled _ => "Request chain assembled"
  | pageUnreadable _ => "Failed to read bad gateway page"
  | sendfileInvalid => "Invalid X-Sendfile header from backend"
  | sendfileServing _ => "Serving X-Sendfile response"
  | cacheHit _ => "Cache hit"
  | cacheStore _ _ _ => "Cache store"
  | cacheUnbuffered _ => "Failed to buffer cacheable response"
  | uriUnusable _ => "Failed to rewrite request URI"
  | proxying _ _ => "Proxying request"
  | backendFailed => "Upstream request failed"
  | starting _ _ _ => "geofence-proxy starting"
  | metricsAddressUnreadable _ => "Failed to parse metrics address"
  | metricsListening _ => "Metrics endpoint listening"
  | metricsFailed _ => "Failed to install metrics exporter"
  | databaseOpened _ _ _ => "GeoIP database opened"
  | databaseLoaded _ => "GeoIP database loaded"
  | databaseUnavailable _ =>
    "GeoIP database unavailable, country filtering disabled"
  | databaseClosed _ => "GeoIP database closed"
  | serverStarting _ => "HTTP server starting"
  | serverDraining => "HTTP server draining connections"
  | serverStopped => "HTTP server stopped"
  | signalReceived _ => "Shutdown signal received"
  | shutdownTriggered _ => "Shutdown triggered"
  | shutdownComplete => "Shutdown complete"

/-- The part of the program that an event comes from, outermost first. -/
def source : Event → List String
  | request _ => ["http", "middleware", "request_log"]
  | blocked _ _ _ _ => ["http", "middleware", "country_filter"]
  | addressUnreadable => ["http", "middleware", "country_filter"]
  | countryUnwritable _ => ["http", "middleware", "country_filter"]
  | lookupFailed _ _ => ["geoip", "filter"]
  | noRecord _ => ["geoip", "filter"]
  | bothLists _ _ => ["lifecycle", "startup"]
  | filterEnabled _ => ["lifecycle", "startup"]
  | databaseLoaded _ => ["lifecycle", "startup"]
  | databaseUnavailable _ => ["lifecycle", "startup"]
  | databaseOpened _ _ _ => ["geoip", "lookup"]
  | databaseClosed _ => ["geoip", "lookup"]
  | chainAssembled _ => ["http", "server"]
  | serverStarting _ => ["http", "server"]
  | serverDraining => ["http", "server"]
  | serverStopped => ["http", "server"]
  | pageUnreadable _ => ["http", "proxy"]
  | uriUnusable _ => ["http", "proxy"]
  | proxying _ _ => ["http", "proxy"]
  | backendFailed => ["http", "proxy"]
  | sendfileInvalid => ["http", "middleware", "sendfile"]
  | sendfileServing _ => ["http", "middleware", "sendfile"]
  | cacheHit _ => ["http", "cache"]
  | cacheStore _ _ _ => ["http", "cache"]
  | cacheUnbuffered _ => ["http", "cache"]
  | metricsListening _ => ["observability", "metrics"]
  | metricsFailed _ => ["observability", "metrics"]
  | signalReceived _ => ["lifecycle", "signals"]
  | shutdownTriggered _ => ["lifecycle", "shutdown"]
  | starting _ _ _ => []
  | metricsAddressUnreadable _ => []
  | shutdownComplete => []

/-- The source as one name, under which log lines are filtered. -/
def target (e : Event) : String :=
  join "::" ("geofence_proxy" :: e.source)

/-- The values shown beside the message. -/
def fields : Event → List (String × FieldValue)
  | request l =>
    [("method", .text l.method), ("path", .text l.path),
     ("status", .number l.status), ("remote_addr", .text l.remoteAddress),
     ("user_agent", .text l.userAgent),
     ("req_content_length", .text l.requestLength),
     ("resp_content_length", .text l.responseLength),
     ("cache", .text l.cache)]
  | blocked country address list countries =>
    let name := match list with
      | .allow => "allowed_countries"
      | .block => "blocked_countries"
    [("country", .text country), ("ip", .text address.toText),
     (name, .text (quoteList countries))]
  | lookupFailed address error =>
    [("ip", .text address.toText), ("error", .text error.message)]
  | noRecord address => [("ip", .text address.toText)]
  | countryUnwritable country => [("country", .text country)]
  | bothLists allow block =>
    [("allow_countries", .text (quoteList allow)),
     ("block_countries", .text (quoteList block))]
  | filterEnabled policy => [("policy", .text policy.toText)]
  | chainAssembled layers => [("layers", .text (quoteList layers))]
  | pageUnreadable path => [("path", .text path)]
  | sendfileServing path => [("path", .text path)]
  | cacheHit key => [("key", .text key)]
  | cacheStore key seconds stored =>
    [("key", .text key), ("ttl_secs", .number seconds), ("stored", .flag stored)]
  | cacheUnbuffered key => [("key", .text key)]
  | uriUnusable uri => [("uri", .text uri)]
  | proxying method uri => [("method", .text method), ("uri", .text uri)]
  | starting bindAddress target geoip =>
    [("version", .text "0.1.0"), ("bind_address", .text bindAddress),
     ("target", .text target), ("geoip", .flag geoip)]
  | metricsAddressUnreadable address => [("metrics_address", .text address)]
  | metricsListening address => [("address", .text address)]
  | metricsFailed address => [("address", .text address)]
  | databaseOpened path databaseType buildEpoch =>
    [("path", .text path), ("database_type", .text databaseType),
     ("build_epoch", .number buildEpoch)]
  | databaseLoaded path => [("path", .text path)]
  | databaseUnavailable error => [("error", .text error)]
  | databaseClosed path => [("path", .text path)]
  | serverStarting address => [("address", .text address)]
  | signalReceived signal => [("signal", .text signal)]
  | shutdownTriggered listeners => [("listeners", .number listeners)]
  | addressUnreadable => []
  | sendfileInvalid => []
  | backendFailed => []
  | serverDraining => []
  | serverStopped => []
  | shutdownComplete => []

end Event

end Gatehouse
