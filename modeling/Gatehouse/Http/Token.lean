/-!
# Tokens

Names of headers and methods are tokens: one or more characters out of the
ASCII letters, the digits and fifteen signs.
-/

namespace Gatehouse.Http

/-- Whether a character may stand in a token. -/
def isTokenChar (c : Char) : Bool :=
  c.isAlphanum || "!#$%&'*+-.^_|~".toList.contains c || c.toNat == 0x60

/-- Whether a text is a token. -/
def isToken (s : String) : Bool :=
  !s.toList.isEmpty && s.toList.all isTokenChar

end Gatehouse.Http
