import Gatehouse.Http.Head

/-!
# Where bodies end

A body has a stated length, comes in chunks, or ends with the connection.
Which of them holds is a matter of the headers alone, and a message whose
headers contradict each other is refused rather than guessed at. On the way
out, the length is stated where it is known and chunks are used where it is
not.
-/

namespace Gatehouse.Http

open Text

/-- How the end of a body is found. -/
inductive Framing where
  /-- There is no body. -/
  | absent
  /-- So many bytes. -/
  | sized (length : Nat)
  | chunked
  /-- All bytes until the connection ends. -/
  | untilClose
deriving DecidableEq, Inhabited

/-- The members of all values of a header, in lower case. -/
def members (h : Headers) (name : String) : List String :=
  (h.values name).flatMap fun v =>
    (commaPieces v.latin1).map fun piece =>
      lower (String.ofList (piece.toList.filter fun c => c != ' ' && c != '\t'))

/-- The stated length, if all statements of it agree. -/
def statedLength? (h : Headers) : Option Nat :=
  match (members h "content-length").map fun m => Decimal.digits? Decimal.max64 m.toList with
  | some n :: rest => if rest.all (· = some n) then some n else none
  | _ => none

/-- The framing that headers state, with a default where they state
nothing. -/
def statedFraming? (h : Headers) (otherwise : Framing) : Option Framing :=
  if h.contains "transfer-encoding" then
    if (members h "transfer-encoding").getLast? = some "chunked" then some .chunked else none
  else if h.contains "content-length" then (statedLength? h).map .sized
  else some otherwise

/-- **How the body of a request ends.** -/
def RequestHead.framing? (r : RequestHead) : Option Framing :=
  if r.version = .http10 && r.headers.contains "transfer-encoding" then none
  else statedFraming? r.headers .absent

/-- Whether responses of a status never have a body. -/
def Status.isBodiless (s : Status) : Bool :=
  s.code / 100 == 1 || s.code == 204 || s.code == 304

/-- **How the body of a response ends.** -/
def ResponseHead.framing? (a : ResponseHead) (method : Method) : Option Framing :=
  if a.status.isBodiless || method = Method.head
      || (method = Method.connect && a.status.isSuccess) then some .absent
  else statedFraming? a.headers .untilClose

/-- Whether the connection goes on after a message. -/
def persists (version : Version) (h : Headers) : Bool :=
  let said := members h "connection"
  match version with
  | .http11 => !said.contains "close"
  | .http10 => said.contains "keep-alive"

/-! ## Chunks -/

/-- The size in the first line of a chunk; what follows a semicolon means
nothing. -/
def chunkSize? (line : Bytes) : Option Nat :=
  let digits := (line.latin1.toList.takeWhile (· != ';')).filter fun c => c != ' ' && c != '\t'
  if digits.isEmpty || digits.length > 16 || !digits.all isHex then none
  else some (digits.foldl (fun acc c => acc * 16 + (hexValue? c).getD 0) 0)

/-- Bytes as one chunk. -/
def chunk (data : Bytes) : Bytes :=
  Bytes.ofString (String.ofList (Nat.toDigits 16 data.length)) ++ lineEnd ++ data ++ lineEnd

/-- What ends a chunked body. -/
def lastChunk : Bytes := Bytes.ofString "0" ++ lineEnd ++ lineEnd

/-! ## Sending -/

/-- A message ready to be sent. -/
structure Outgoing where
  bytes : Bytes
  /-- Whether the receiver sees where the message ends. -/
  ends : Bool

/-- A body in chunks. An incomplete one lacks its end. -/
def chunkedBody (b : Body) : Bytes :=
  (if b.data.isEmpty then [] else chunk b.data) ++ if b.complete then lastChunk else []

/-- **A response as it is sent** to a client that asked with a method and
speaks a version. -/
def Response.outgoing (a : Response) (method : Method) (version : Version) : Outgoing :=
  if a.status.isBodiless || method = Method.head then ⟨a.head version, true⟩
  else if a.headers.contains "content-length" then
    ⟨a.head version ++ a.body.data, a.body.complete && statedLength? a.headers = some a.body.data.length⟩
  else match a.body.exactSize?, version with
    | some n, _ =>
      let a := a.withHeader "content-length" (Bytes.ofString (toString n))
      ⟨a.head version ++ a.body.data, a.body.complete⟩
    | none, .http11 =>
      let a := a.withHeader "transfer-encoding" (Bytes.ofString "chunked")
      ⟨a.head version ++ chunkedBody a.body, a.body.complete⟩
    | none, .http10 => ⟨a.head version ++ a.body.data, false⟩

/-- The host and port of an authority as the `Host` header names them: the
usual port is left out. -/
def hostHeader (authority : String) : Bytes :=
  let text := authority.toList
  match afterLead? ":80".toList.reverse text.reverse with
  | some rest => Bytes.ofString (String.ofList rest.reverse)
  | none => Bytes.ofString authority

/-- **A request as it is sent**: with a host, and with a length or chunks
if it has a body. -/
def Request.outgoing (r : Request) : Outgoing :=
  let r := if r.headers.contains "host" then r
    else { r with headers := r.headers.append "host" (hostHeader (r.uri.authority.getD "")) }
  let complete := r.body.complete
  if r.headers.contains "content-length" || (r.body.sized && r.body.data.isEmpty) then
    ⟨r.head ++ r.body.data, complete⟩
  else if r.body.sized then
    let length := Bytes.ofString (toString r.body.data.length)
    let r := { r with headers := r.headers.append "content-length" length }
    ⟨r.head ++ r.body.data, complete⟩
  else
    let r := { r with headers := r.headers.append "transfer-encoding" (Bytes.ofString "chunked") }
    ⟨r.head ++ chunkedBody r.body, complete⟩

end Gatehouse.Http
