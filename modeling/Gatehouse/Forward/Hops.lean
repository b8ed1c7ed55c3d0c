import Gatehouse.Http.Headers
import Gatehouse.Text.Blank

/-!
# Headers of a single connection

Some headers speak about the connection they travel on and end with it, in
either direction. Nine names are always among them, and `Connection` may
name more. A value of `Connection` that is not visible ASCII names nothing,
nor does an entry that is no header name.
-/

namespace Gatehouse.Forward

open Http Text

/-- The names that always end with the connection. -/
def hopNames : List String :=
  ["connection", "proxy-authenticate", "proxy-authorization", "te", "trailer",
   "transfer-encoding", "upgrade", "keep-alive", "proxy-connection"]

/-- The names that a list of headers declares to end with the connection. -/
def declaredHops (h : Headers) : List String :=
  ((h.values "connection").filterMap Bytes.text?).flatMap fun text =>
    (commaPieces text).filterMap fun piece => fieldName? (trim piece)

/-- **The headers that go on** to the other connection. -/
def withoutHops (h : Headers) : Headers :=
  h.eraseAll (hopNames ++ declaredHops h)

/-- What goes on are the values of all other names, unchanged. -/
theorem values_withoutHops (h : Headers) (n : String) :
    (withoutHops h).values n
      = if n ∈ hopNames ++ declaredHops h then [] else h.values n :=
  Headers.values_eraseAll h _ n

end Gatehouse.Forward
