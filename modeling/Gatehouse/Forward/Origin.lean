import Gatehouse.Address.Printer
import Gatehouse.Country.Client

/-!
# Telling the backend where a request comes from

The backend sees the gate as its client. Three headers tell it about the
real one: who it is, for which host it asked, and by which protocol. Where
incoming values are trusted they are kept and the transport peer is put
behind them; otherwise they are dropped first, so that nothing a client
writes there arrives.
-/

namespace Gatehouse.Forward

open Http

/-- The header for the host that was asked for. -/
def forwardedHost : String := "x-forwarded-host"

/-- The header for the protocol that was used. -/
def forwardedProto : String := "x-forwarded-proto"

/-- The addresses a request came through: those known so far, in the first
line if it can be read, and the peer. -/
def extendTrail (h : Headers) (peer : Address) : String :=
  match h.text? Country.forwardedFor with
  | some prior => prior ++ ", " ++ peer.toText
  | none => peer.toText

/-- A header set to a value, unless there is one already. -/
def withDefault (h : Headers) (name : String) (value : Option Bytes) : Headers :=
  if h.contains name then h
  else match value with
    | some v => h.insert name v
    | none => h

/-- Adds the peer to the trail. -/
def withTrail (h : Headers) (peer : Option Endpoint) : Headers :=
  match peer with
  | none => h
  | some p =>
    match fieldValue? (Bytes.ofString (extendTrail h p.address)) with
    | some v => h.insert Country.forwardedFor v
    | none => h

/-- **The headers with their account of the client.** -/
def withOrigin (h : Headers) (peer : Option Endpoint) (trustIncoming : Bool) :
    Headers :=
  let h := if trustIncoming then h
    else h.eraseAll [Country.forwardedFor, forwardedHost, forwardedProto]
  let h := withTrail h peer
  let h := withDefault h forwardedHost (h.get? "host")
  withDefault h forwardedProto (some (Bytes.ofString "http"))

end Gatehouse.Forward
