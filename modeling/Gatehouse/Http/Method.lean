import Gatehouse.Http.Token

/-!
# Request methods

Any token is a method, and case matters. Only three have a meaning of their
own here: `GET` may be cached, the answer to `HEAD` has no body, and a
successful `CONNECT` opens a tunnel instead of answering.
-/

namespace Gatehouse.Http

/-- A request method. -/
structure Method where
  name : String
deriving DecidableEq, Inhabited

namespace Method

def get : Method := ⟨"GET"⟩
def head : Method := ⟨"HEAD"⟩
def connect : Method := ⟨"CONNECT"⟩

/-- The method of the given name, if it is a token. -/
def parse? (s : String) : Option Method :=
  if isToken s then some ⟨s⟩ else none

end Method

end Gatehouse.Http
