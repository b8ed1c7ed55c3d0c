import Gatehouse.Chain.World
import Gatehouse.Http.Date
import Gatehouse.Live.Dialer
import Std.Async.Timer
import Std.Sync.CancellationToken

/-!
# Accepting connections

A listener accepts connections until it is told to stop. Connections at work
finish the request they are at; those that wait for one end at once.
-/

namespace Gatehouse.Live

open Http Std.Async

/-- **A listener at work.** -/
structure Listener where
  socket : TCP.Socket.Server
  /-- Told to stop. -/
  stop : Std.CancellationToken
  /-- How many connections there are. -/
  connections : IO.Ref Nat

namespace Listener

/-- Listens at an endpoint. -/
def bind (e : Endpoint) : IO Listener := do
  let socket ← TCP.Socket.Server.mk
  socket.bind (socketAddress e)
  socket.listen 1024
  return ⟨socket, ← Std.CancellationToken.new, ← IO.mkRef 0⟩

/-- Waits for a request to begin, unless there is to be none any more. -/
def awaitRequest (l : Listener) (s : Stream) : Async Bool := do
  if !(← s.pending.get).isEmpty then return true
  Selectable.one #[
    .case (s.socket.recvSelector Stream.portion) fun b => s.arrive b,
    .case l.stop.selector fun _ => return false]

/-- Seconds since the first of January 1970. -/
def unixSeconds : IO Nat := do
  return (← Std.Time.Timestamp.now).toSecondsSinceUnixEpoch.val.toNat

/-- The response with its date. -/
def dated (a : Response) : IO Response := do
  if a.headers.contains "date" then return a
  return a.withHeader "date" (Bytes.ofString (dateText (← unixSeconds)))

/-- The response to a request that cannot be read. -/
def refusal : Response :=
  (Response.bare .badRequest).withHeader "connection" (Bytes.ofString "close")

/-- Answers the requests of a connection, one after another. -/
partial def converse (l : Listener) (answer : Chain.Handler Async) (s : Stream)
    (peer : Option Endpoint) : Async Unit := do
  if !(← l.awaitRequest s) then return
  match ← s.head? with
  | none => return
  | some lines =>
    match (do let head ← RequestHead.ofLines? lines; return (head, ← head.framing?)) with
    | none => s.send ((← dated refusal).outgoing .get .http11).bytes
    | some (head, framing) =>
      if (members head.headers "expect").contains "100-continue" then
        s.send (Bytes.ofString "HTTP/1.1 100 Continue\r\n\r\n")
      let body ← s.body framing
      let a ← dated (← answer ⟨head.method, head.uri, head.headers, body, peer, none⟩)
      let stopping ← l.stop.isCancelled
      let stays := persists head.version head.headers && body.complete && !stopping
        && (a.outgoing head.method head.version).ends
      let a := if stays then a else a.withHeader "connection" (Bytes.ofString "close")
      s.send (a.outgoing head.method head.version).bytes
      if stays then l.converse answer s peer

/-- Takes care of one connection. -/
def attend (l : Listener) (answer : Chain.Handler Async) (socket : TCP.Socket.Client) :
    Async Unit := do
  l.connections.modify (· + 1)
  try
    l.converse answer (← Stream.new socket) (endpointOf (← socket.getPeerName))
  catch _ => pure ()
  l.connections.modify (· - 1)

/-- **Accepts connections** until the listener is told to stop. -/
partial def accept (l : Listener) (answer : Chain.Handler Async) : Async Unit := do
  let next ← Selectable.one #[
    .case l.socket.acceptSelector fun c => return some c,
    .case l.stop.selector fun _ => return none]
  match next with
  | none => return
  | some socket =>
    background (l.attend answer socket)
    l.accept answer

/-- Waits until there is no connection. -/
partial def drained (l : Listener) : Async Unit := do
  if (← l.connections.get) = 0 then return
  sleep 10
  l.drained

/-- The endpoint that the listener is at. -/
def endpoint (l : Listener) : IO Endpoint := do
  match endpointOf (← l.socket.getSockName) with
  | some e => return e
  | none => throw (IO.userError "no endpoint")

end Listener

end Gatehouse.Live
