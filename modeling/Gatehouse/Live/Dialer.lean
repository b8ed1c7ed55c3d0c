import Gatehouse.Address.Parser
import Gatehouse.Live.Stream
import Std.Async.DNS

/-!
# Asking the backend

Every request gets a connection of its own. Whatever goes wrong on it – no
address, no connection, no complete request, no readable response – means
that there is no response.
-/

namespace Gatehouse.Live

open Http Std.Async

/-- The address of a socket at an endpoint. -/
def socketAddress (e : Endpoint) : Std.Net.SocketAddress :=
  match e.address with
  | .v4 ip => .v4 ⟨.ofParts ip.a ip.b ip.c ip.d, e.port⟩
  | .v6 ip => .v6 ⟨.ofParts ip.g0 ip.g1 ip.g2 ip.g3 ip.g4 ip.g5 ip.g6 ip.g7, e.port⟩

/-- The endpoint of a socket. -/
def endpointOf (a : Std.Net.SocketAddress) : Option Endpoint :=
  match a with
  | .v4 s => Endpoint.parse? (toString s.addr ++ ":" ++ toString s.port)
  | .v6 s => Endpoint.parse? ("[" ++ toString s.addr ++ "]:" ++ toString s.port)

/-- The endpoints that an authority names. -/
def resolve (authority : String) : Async (List Std.Net.SocketAddress) := do
  match Endpoint.parse? authority with
  | some e => return [socketAddress e]
  | none =>
    match Text.cutAt? (· == ':') authority.toList.reverse with
    | none => return []
    | some (port, host) =>
      let service := String.ofList port.reverse
      let found ← DNS.getAddrInfo (String.ofList host.reverse) service
      let number := UInt16.ofNat (service.toNat?.getD 80)
      return found.toList.map fun
        | .v4 a => .v4 ⟨a, number⟩
        | .v6 a => .v6 ⟨a, number⟩

/-- Connects to the first endpoint that can be reached. -/
def dial : List Std.Net.SocketAddress → Async (Option Stream)
  | [] => return none
  | a :: rest => do
    try
      let socket ← TCP.Socket.Client.mk
      socket.connect a
      return some (← Stream.new socket)
    catch _ => dial rest

/-- Reads a response, over any that only announce it. -/
partial def readResponse (s : Stream) (method : Method) : Async (Option Response) := do
  match (← s.head?).bind ResponseHead.ofLines? with
  | none => return none
  | some head =>
    if head.status.code / 100 == 1 && head.status.code != 101 then readResponse s method
    else match head.framing? method with
      | none => return none
      | some framing => return some ⟨head.status, head.headers, ← s.body framing⟩

/-- **Sends a request and reads the response.** -/
def ask (r : Request) : Async (Option Response) := do
  try
    let out := r.outgoing
    if !out.ends then return none
    match ← dial (← resolve (r.uri.authority.getD "")) with
    | none => return none
    | some s =>
      s.send out.bytes
      readResponse s r.method
  catch _ => return none

end Gatehouse.Live
