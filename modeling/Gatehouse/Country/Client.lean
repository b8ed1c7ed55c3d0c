import Gatehouse.Address.Parser
import Gatehouse.Http.Headers

/-!
# The address of the client

A request that came through other proxies names its client in
`X-Forwarded-For`, leftmost first. Where that header is present it decides
alone, even when nothing can be read from it; only a request without it is
judged by its transport peer.
-/

namespace Gatehouse.Country

/-- The header that names the client of a forwarded request. -/
def forwardedFor : String := "x-forwarded-for"

/-- The header that tells the backend the country of the client. -/
def countryHeader : String := "x-geoip-country"

/-- **The address of the client**: the first entry of the first
`X-Forwarded-For` value, or else the transport peer. -/
def clientAddress (headers : Http.Headers) (peer : Option Endpoint) :
    Option Address :=
  match headers.get? forwardedFor with
  | some value => do
    let text ← value.text?
    Address.ofHostChars? (text.toList.takeWhile (· != ','))
  | none => peer.map (·.address)

end Gatehouse.Country
