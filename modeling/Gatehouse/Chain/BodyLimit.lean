import Gatehouse.Chain.World
import Gatehouse.Text.Decimal

/-!
# Limiting request bodies

A request that announces a body above the limit is answered with 413 at
once. Any other body may be read up to the limit, and not beyond the length
that was announced for it; reading fails there.
-/

namespace Gatehouse.Chain

open Http

/-- The length that a request announces, if it is a number. -/
def declaredLength? (r : Request) : Option Nat :=
  (r.headers.text? "content-length").bind fun t =>
    Decimal.unsigned? Decimal.max64 t.toList

/-- **Refuses or cuts short** bodies above the limit. -/
def bodyLimit {m : Type → Type} [Monad m] (limit : Nat) (next : Handler m) :
    Handler m := fun r =>
  match declaredLength? r with
  | some n =>
    if n > limit then return .text .contentTooLarge "length limit exceeded"
    else next { r with body := r.body.limited (min limit n) }
  | none => next { r with body := r.body.limited limit }

end Gatehouse.Chain
