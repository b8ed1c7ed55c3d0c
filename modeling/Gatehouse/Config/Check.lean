import Gatehouse.Config.Basic
import Gatehouse.Text.Quoted
import Gatehouse.Url.Parser

/-!
# Acceptable configurations

A configuration that could be read may still make no sense. Every rule is
checked, and each violation is a problem of its own: the operator is told
all of them at once, in a fixed order.
-/

namespace Gatehouse.Config

open Text Url

/-- Why a backend URL is refused. -/
inductive TargetError where
  /-- It is no URL. -/
  | notAUrl (error : UrlError)
  /-- Its scheme is not `http`. -/
  | unsupportedScheme (scheme : String)
  /-- It names no host. -/
  | missingHost
deriving DecidableEq, Inhabited

/-- The text of a refusal. -/
def TargetError.message : TargetError → String
  | .notAUrl e => e.message
  | .unsupportedScheme scheme => "unsupported scheme " ++ quote scheme
  | .missingHost => "missing host"

/-- A country list of the configuration. -/
inductive CountryList where
  | allow
  | block
deriving DecidableEq, Inhabited

/-- The name of the setting that holds a list. -/
def CountryList.name : CountryList → String
  | .allow => "allow_countries"
  | .block => "block_countries"

/-- **A violation of a rule.** -/
inductive Problem where
  | bindAddress (value : String)
  | targetUrl (url : String) (reason : TargetError)
  | zeroTimeout
  | countryCode (list : CountryList) (code : String)
  | cacheSize
  | metricsAddress (value : String)
deriving DecidableEq, Inhabited

namespace Problem

/-- The text of a problem. -/
def message : Problem → String
  | bindAddress value => "invalid listener.bind_address " ++ quote value
  | targetUrl url reason =>
    "invalid upstream.target_url " ++ quote url ++ ": " ++ reason.message
  | zeroTimeout => "timeouts.request_secs must be greater than zero"
  | countryCode list code =>
    "invalid country code " ++ quote code ++ " in geoip." ++ list.name
  | cacheSize => "cache.max_cacheable_response_body exceeds cache.capacity_bytes"
  | metricsAddress value =>
    "invalid observability.metrics_address " ++ quote value

/-- A problem spelled out by its parts. -/
def toText : Problem → String
  | bindAddress value => "BindAddress(" ++ quote value ++ ")"
  | targetUrl url reason =>
    "TargetUrl \x7b url: " ++ quote url ++ ", reason: " ++ quote reason.message
      ++ " \x7d"
  | zeroTimeout => "ZeroTimeout"
  | countryCode list code =>
    "CountryCode \x7b list: " ++ quote list.name ++ ", code: " ++ quote code
      ++ " \x7d"
  | cacheSize => "CacheSize"
  | metricsAddress value => "MetricsAddress(" ++ quote value ++ ")"

end Problem

/-- Whether a text is an endpoint to bind to. -/
def isEndpoint (s : String) : Bool := (Endpoint.parse? s).isSome

/-- Why a text is no URL of a backend, if it is none. -/
def targetError? (text : String) : Option TargetError :=
  match Url.parse text with
  | .error e => some (.notAUrl e)
  | .ok url =>
    if url.scheme ≠ "http" then some (.unsupportedScheme url.scheme)
    else if url.host.isNone then some .missingHost
    else none

/-- Whether a text is a country code: two ASCII letters, with blanks around
them ignored. -/
def isCountryCode (s : String) : Bool :=
  let code := trimChars s.toList
  code.length == 2 && code.all Char.isAlpha

/-- A problem if a condition holds. -/
def problemIf (b : Bool) (p : Problem) : List Problem := if b then [p] else []

/-- The problems with the codes of a list. -/
def codeProblems (list : CountryList) (codes : List String) : List Problem :=
  codes.flatMap fun c => problemIf (!isCountryCode c) (.countryCode list c)

/-- **All problems of a configuration**, in the order in which they are
reported. -/
def problems (c : Config) : List Problem :=
  problemIf (!isEndpoint c.listener.bindAddress)
      (.bindAddress c.listener.bindAddress)
    ++ (match targetError? c.backend.targetUrl with
      | some e => [.targetUrl c.backend.targetUrl e]
      | none => [])
    ++ problemIf (c.timeouts.requestSecs == 0) .zeroTimeout
    ++ codeProblems .allow c.geoip.allowCountries
    ++ codeProblems .block c.geoip.blockCountries
    ++ problemIf (c.cache.enabled && c.cache.capacity < c.cache.maxItemSize)
      .cacheSize
    ++ problemIf (c.observability.metricsEnabled
        && !isEndpoint c.observability.metricsAddress)
      (.metricsAddress c.observability.metricsAddress)

end Gatehouse.Config
