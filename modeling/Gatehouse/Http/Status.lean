/-!
# Response statuses

A status is a number of three digits. The constants are the statuses that
the gate itself answers with.
-/

namespace Gatehouse.Http

/-- A response status. -/
structure Status where
  code : Nat
  three_digits : 100 ≤ code ∧ code ≤ 999 := by decide
deriving DecidableEq

namespace Status

def ok : Status := ⟨200, by decide⟩
def partialContent : Status := ⟨206, by decide⟩
def badRequest : Status := ⟨400, by decide⟩
def forbidden : Status := ⟨403, by decide⟩
def notFound : Status := ⟨404, by decide⟩
def methodNotAllowed : Status := ⟨405, by decide⟩
def requestTimeout : Status := ⟨408, by decide⟩
def contentTooLarge : Status := ⟨413, by decide⟩
def rangeNotSatisfiable : Status := ⟨416, by decide⟩
def internalServerError : Status := ⟨500, by decide⟩
def badGateway : Status := ⟨502, by decide⟩

instance : Inhabited Status := ⟨ok⟩

/-- The status of a number of three digits. -/
def ofNat? (n : Nat) : Option Status :=
  if h : 100 ≤ n ∧ n ≤ 999 then some ⟨n, h⟩ else none

/-- Whether the request succeeded. -/
def isSuccess (s : Status) : Bool := s.code / 100 == 2

end Status

end Gatehouse.Http
