import Gatehouse.Http.Message
import Gatehouse.Text.Decimal

/-!
# Heads of messages on the wire

A message begins with a start line and its header fields, one a line, up to
an empty line. Lines end in a line feed with or without a carriage return
before it. Reading takes lines without their ends; writing puts both
characters there. Names go out in lower case, as they are kept.
-/

namespace Gatehouse.Http

open Text

/-- The two versions of the protocol that are spoken. -/
inductive Version where
  | http10
  | http11
deriving DecidableEq, Inhabited

/-- The version of a name. -/
def Version.ofName? (name : Bytes) : Option Version :=
  if name = Bytes.ofString "HTTP/1.1" then some .http11
  else if name = Bytes.ofString "HTTP/1.0" then some .http10
  else none

/-- The name of a version. -/
def Version.name : Version → String
  | .http10 => "HTTP/1.0"
  | .http11 => "HTTP/1.1"

/-- The head of a request. -/
structure RequestHead where
  method : Method
  uri : Uri
  version : Version
  headers : Headers
deriving DecidableEq, Inhabited

/-- The head of a response. -/
structure ResponseHead where
  version : Version
  status : Status
  headers : Headers
deriving DecidableEq, Inhabited

/-! ## Reading -/

/-- A line without its carriage return. -/
def withoutReturn (line : Bytes) : Bytes :=
  if line.getLast? = some 13 then line.dropLast else line

/-- Whether a byte is a space or a tab. -/
def isPad (b : UInt8) : Bool := b == 32 || b == 9

/-- A value without the spaces and tabs around it. -/
def unpadded (b : Bytes) : Bytes :=
  ((b.dropWhile isPad).reverse.dropWhile isPad).reverse

/-- Reads a header line. -/
def field? (line : Bytes) : Option Field := do
  let (name, value) ← cutAt? (· == (58 : UInt8)) line
  return ⟨← fieldName? (Bytes.latin1 name), ← fieldValue? (unpadded value)⟩

/-- Reads header lines. -/
def headers? (lines : List Bytes) : Option Headers :=
  (lines.mapM field?).map Headers.mk

/-- **Reads the head of a request** from its lines. -/
def RequestHead.ofLines? : List Bytes → Option RequestHead
  | [] => none
  | start :: lines =>
    match splitAt (· == (32 : UInt8)) start with
    | [method, uri, version] => do
      return {
        method := ← Method.parse? (Bytes.latin1 method)
        uri := ← (Bytes.utf8? uri).bind Uri.parse?
        version := ← Version.ofName? version
        headers := ← headers? lines }
    | _ => none

/-- **Reads the head of a response** from its lines. The words behind the
status mean nothing. -/
def ResponseHead.ofLines? : List Bytes → Option ResponseHead
  | [] => none
  | start :: lines =>
    match splitAt (· == (32 : UInt8)) start with
    | version :: status :: _ => do
      let code ← Decimal.digits? 999 (Bytes.latin1 status).toList
      return {
        version := ← Version.ofName? version
        status := ← Status.ofNat? code
        headers := ← headers? lines }
    | _ => none

/-! ## Writing -/

/-- The usual words for a status. -/
def Status.reason (s : Status) : String :=
  match s.code with
  | 100 => "Continue"
  | 101 => "Switching Protocols"
  | 200 => "OK"
  | 201 => "Created"
  | 202 => "Accepted"
  | 203 => "Non Authoritative Information"
  | 204 => "No Content"
  | 205 => "Reset Content"
  | 206 => "Partial Content"
  | 300 => "Multiple Choices"
  | 301 => "Moved Permanently"
  | 302 => "Found"
  | 303 => "See Other"
  | 304 => "Not Modified"
  | 307 => "Temporary Redirect"
  | 308 => "Permanent Redirect"
  | 400 => "Bad Request"
  | 401 => "Unauthorized"
  | 402 => "Payment Required"
  | 403 => "Forbidden"
  | 404 => "Not Found"
  | 405 => "Method Not Allowed"
  | 406 => "Not Acceptable"
  | 407 => "Proxy Authentication Required"
  | 408 => "Request Timeout"
  | 409 => "Conflict"
  | 410 => "Gone"
  | 411 => "Length Required"
  | 412 => "Precondition Failed"
  | 413 => "Payload Too Large"
  | 414 => "URI Too Long"
  | 415 => "Unsupported Media Type"
  | 416 => "Range Not Satisfiable"
  | 417 => "Expectation Failed"
  | 421 => "Misdirected Request"
  | 422 => "Unprocessable Entity"
  | 426 => "Upgrade Required"
  | 428 => "Precondition Required"
  | 429 => "Too Many Requests"
  | 431 => "Request Header Fields Too Large"
  | 500 => "Internal Server Error"
  | 501 => "Not Implemented"
  | 502 => "Bad Gateway"
  | 503 => "Service Unavailable"
  | 504 => "Gateway Timeout"
  | 505 => "HTTP Version Not Supported"
  | _ => "<none>"

/-- The end of a line. -/
def lineEnd : Bytes := [13, 10]

/-- A header as a line. -/
def Field.toLine (f : Field) : Bytes :=
  Bytes.ofString f.name ++ Bytes.ofString ": " ++ f.value ++ lineEnd

/-- A start line with headers and the empty line behind them. -/
def headBytes (start : String) (headers : Headers) : Bytes :=
  Bytes.ofString start ++ lineEnd ++ headers.fields.flatMap Field.toLine ++ lineEnd

/-- **The head of a response** as it is sent. -/
def Response.head (a : Response) (version : Version) : Bytes :=
  headBytes (version.name ++ " " ++ toString a.status.code ++ " " ++ a.status.reason) a.headers

/-- What a request asks the server itself for. -/
def Request.wireTarget (r : Request) : String :=
  if r.method = Method.connect then r.uri.authority.getD "" else r.uri.targetOrRoot

/-- **The head of a request** as it is sent. -/
def Request.head (r : Request) : Bytes :=
  headBytes (r.method.name ++ " " ++ r.wireTarget ++ " HTTP/1.1") r.headers

end Gatehouse.Http
