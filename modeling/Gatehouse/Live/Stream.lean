import Gatehouse.Http.Framing
import Std.Async.TCP

/-!
# Connections

A connection with what has arrived on it and was not read yet. Reading
waits for as much as is asked for and no more; where the other end is
silent for good, less comes back.
-/

namespace Gatehouse.Live

open Http Std.Async

/-- **A connection.** -/
structure Stream where
  socket : TCP.Socket.Client
  /-- What has arrived and was not read yet. -/
  pending : IO.Ref ByteArray

namespace Stream

/-- The most bytes that are received at once. -/
def portion : UInt64 := 65536

/-- The most bytes of one line. -/
def maxLine : Nat := 400000

/-- The most lines of one head. -/
def maxLines : Nat := 101

/-- A connection on which nothing has arrived. -/
def new (socket : TCP.Socket.Client) : IO Stream :=
  return ⟨socket, ← IO.mkRef ByteArray.empty⟩

/-- Adds what has arrived, and tells whether anything has. -/
def arrive (s : Stream) : Option ByteArray → IO Bool
  | none => return false
  | some b => do
    s.pending.modify (· ++ b)
    return true

/-- Waits for more to arrive, and tells whether anything has. -/
def more (s : Stream) : Async Bool := do
  s.arrive (← s.socket.recv? portion)

/-- Takes bytes off the front of what has arrived. -/
def takeOff (s : Stream) (count : Nat) : IO Bytes := do
  let b ← s.pending.get
  s.pending.set (b.extract count b.size)
  return (b.extract 0 count).toList

/-- Reads a line. There is none if the connection ends within it, or if it
is too long. -/
partial def line? (s : Stream) : Async (Option Bytes) := do
  let b ← s.pending.get
  match b.toList.idxOf? 10 with
  | some i =>
    let line ← s.takeOff (i + 1)
    return some (withoutReturn line.dropLast)
  | none =>
    if b.size > maxLine then return none
    if ← s.more then s.line? else return none

/-- Reads lines up to an empty one. -/
partial def lines? (s : Stream) (sofar : List Bytes) : Async (Option (List Bytes)) := do
  if sofar.length > maxLines then return none
  match ← s.line? with
  | none => return none
  | some [] => return some sofar.reverse
  | some line => s.lines? (line :: sofar)

/-- Reads the lines of a head, over empty lines in front of it. -/
partial def head? (s : Stream) : Async (Option (List Bytes)) := do
  match ← s.line? with
  | none => return none
  | some [] => s.head?
  | some line => s.lines? [line]

/-- Reads so many bytes, or fewer if the connection ends before. -/
partial def take (s : Stream) (count : Nat) : Async Bytes := do
  let b ← s.pending.get
  if b.size ≥ count then s.takeOff count
  else if ← s.more then s.take count
  else s.takeOff b.size

/-- Reads all there is until the connection ends. -/
partial def rest (s : Stream) : Async Bytes := do
  if ← s.more then s.rest
  else s.takeOff (← s.pending.get).size

/-- The body of chunks that were read, the latest first. -/
def ofChunks (sofar : List Bytes) (complete : Bool) : Body :=
  ⟨sofar.reverse.flatten, false, complete, sofar.reverse.map (·.length)⟩

/-- Reads chunks and what may follow the last one. -/
partial def chunks (s : Stream) (sofar : List Bytes) : Async Body := do
  match (← s.line?).bind chunkSize? with
  | none => return ofChunks sofar false
  | some 0 =>
    let trailer ← s.lines? []
    return ofChunks sofar trailer.isSome
  | some size =>
    let data ← s.take size
    let sofar := data :: sofar
    if data.length < size then return ofChunks sofar false
    match ← s.line? with
    | some [] => s.chunks sofar
    | _ => return ofChunks sofar false

/-- **Reads a body.** -/
def body (s : Stream) : Framing → Async Body
  | .absent => return .empty
  | .sized count => do
    let data ← s.take count
    return ⟨data, true, data.length = count, []⟩
  | .chunked => s.chunks []
  | .untilClose => return ⟨← s.rest, false, true, []⟩

/-- Sends bytes. -/
def send (s : Stream) (b : Bytes) : Async Unit :=
  s.socket.send ⟨b.toArray⟩

end Stream

end Gatehouse.Live
