import Gatehouse.Address.Basic
import Gatehouse.Http.Body
import Gatehouse.Http.Headers
import Gatehouse.Http.Method
import Gatehouse.Http.Status
import Gatehouse.Http.Uri

/-!
# Requests and responses

Beside the parts that travel on the wire, a request carries what the gate
knows about it: the transport peer it came from, and the country that was
resolved for it.
-/

namespace Gatehouse.Http

/-- A request on its way to the backend. -/
structure Request where
  method : Method
  uri : Uri
  headers : Headers
  body : Body
  /-- The other end of the connection, where there is one. -/
  peer : Option Endpoint
  /-- The country that was resolved for the client. -/
  country : Option String
deriving DecidableEq, Inhabited

/-- A response on its way to the client. -/
structure Response where
  status : Status
  headers : Headers
  body : Body
deriving DecidableEq, Inhabited

namespace Response

/-- A response without headers and with an empty body. -/
def bare (status : Status) : Response := ⟨status, Headers.empty, Body.empty⟩

/-- The media type of plain texts and error messages. -/
def plainText : Bytes := Bytes.ofString "text/plain; charset=utf-8"

/-- A response with a short text. -/
def text (status : Status) (s : String) : Response :=
  ⟨status, Headers.empty.append "content-type" plainText, Body.ofString s⟩

/-- The response with a header set to one value. -/
def withHeader (r : Response) (name : String) (value : Bytes) : Response :=
  { r with headers := r.headers.insert name value }

end Response

end Gatehouse.Http
