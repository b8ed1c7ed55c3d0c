import Gatehouse.Chain.World
import Gatehouse.Http.ByteRange
import Gatehouse.Http.Date
import Gatehouse.Http.MediaType

/-!
# Serving files for the backend

A backend may answer with the name of a file instead of its contents. It is
told so by a request header, and names the file in a response header that
never reaches the client. The file is served the way a file server would,
with ranges and a guessed media type, and the backend's other headers are
added where the file response has none of the name.
-/

namespace Gatehouse.Chain

open Http Text

/-- The header that tells the backend what it may do. -/
def sendfileType : String := "x-sendfile-type"

/-- The header in which the backend names a file. -/
def sendfileHeader : String := "x-sendfile"

/-! ## The file response -/

/-- The headers that every response about an opened file has. -/
def fileHeaders (path : String) (modified : Nat) : Headers :=
  ((Headers.empty.append "content-type" (Bytes.ofString (mediaType path))).append
    "accept-ranges" (Bytes.ofString "bytes")).append
    "last-modified" (Bytes.ofString (dateText modified))

/-- The size that directories are reported with. -/
def directorySize : Nat := 4096

/-- The size of what was opened. -/
def nodeSize : Files.Node → Nat
  | .file data => data.length
  | .directory => directorySize

/-- The bytes from one position through another, as a body that is sent as
it is read. Reading a directory fails. -/
def nodeBody (n : Files.Node) (first last : Nat) : Body :=
  match n with
  | .file data => ⟨(data.drop first).take (last + 1 - first), false, true, []⟩
  | .directory => ⟨[], false, false, []⟩

/-- The body, or an empty one for a request that asks for none. -/
def bodyFor (method : Method) (b : Body) : Body :=
  if method = Method.head then Body.empty else b

/-- The header of a response about a part of a file. -/
def contentRange (span : String) (size : Nat) : Bytes :=
  Bytes.ofString ("bytes " ++ span ++ "/" ++ toString size)

/-- A number as a header value. -/
def numeral (n : Nat) : Bytes := Bytes.ofString (toString n)

/-- The response that ranges of a file lead to. -/
def rangeResponse (method : Method) (n : Files.Node) (headers : Headers)
    (ranges : Option (List ByteRange)) : Response :=
  let size := nodeSize n
  let unsatisfiable (b : Body) : Response :=
    ⟨.rangeNotSatisfiable, headers.append "content-range" (contentRange "*" size), b⟩
  match ranges.bind (ByteRange.resolve? size) with
  | some [(first, last)] =>
    let span := toString first ++ "-" ++ toString last
    let length := if size = 0 then 0 else last + 1 - first
    { status := .partialContent
      headers := (headers.append "content-range" (contentRange span size)).append
        "content-length" (numeral length)
      body := bodyFor method (nodeBody n first last) }
  | some _ => unsatisfiable (Body.ofString "Cannot serve multipart range requests")
  | none => unsatisfiable Body.empty

/-- The response to a request for an opened file. -/
def openedResponse (method : Method) (range : Option String) (path : String)
    (n : Files.Node) (modified : Nat) : Response :=
  let headers := fileHeaders path modified
  match range with
  | some range => rangeResponse method n headers (ByteRange.parse? range.toList)
  | none =>
    { status := .ok
      headers := headers.append "content-length" (numeral (nodeSize n))
      body := bodyFor method (nodeBody n 0 (nodeSize n)) }

/-- **The response of a file server** for one path. -/
def fileResponse {m : Type → Type} [Monad m] (w : World m) (method : Method)
    (range : Option String) (path : String) : m Response := do
  if method = Method.get || method = Method.head then
    match ← w.openFile path with
    | .missing => return .bare .notFound
    | .failed => return .bare .internalServerError
    | .found n modified => return openedResponse method range path n modified
  else
    return (Response.bare .methodNotAllowed).withHeader "allow"
      (Bytes.ofString "GET,HEAD")

/-! ## The layer -/

/-- Adds a header of the backend's response to those of a file response:
lengths and encodings belong to the file, and a name that is there already
keeps its value. -/
def adopt (h : Headers) (f : Field) : Headers :=
  if f.name = "content-length" || f.name = "content-encoding" then h
  else if h.contains f.name then h
  else h.insert f.name f.value

/-- The file response with the headers of the backend's response that it
lacks. -/
def merge (served : Response) (backend : Headers) : Response :=
  { served with headers := backend.fields.foldl adopt served.headers }

/-- **Serves the file** that the backend names, in place of its
response. -/
def sendfile {m : Type → Type} [Monad m] (w : World m) (next : Handler m) :
    Handler m := fun r => do
  let a ← next { r with
    headers := r.headers.insert sendfileType (Bytes.ofString "X-Sendfile") }
  match a.headers.get? sendfileHeader with
  | none => return a
  | some target =>
    match target.text?.filter (· ≠ "") with
    | none =>
      w.report .sendfileInvalid
      return .bare .internalServerError
    | some path =>
      w.report (.sendfileServing path)
      let served ← fileResponse w r.method (r.headers.text? "range") path
      return merge served (a.headers.erase sendfileHeader)

end Gatehouse.Chain
