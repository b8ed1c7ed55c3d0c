import Gatehouse.Chain.World

/-!
# Limiting the time of a request

A request that is not answered in time is answered with an empty 408, and
whatever was still at work on it is given up.
-/

namespace Gatehouse.Chain

open Http

/-- **Answers 408** when the rest of the chain takes too long. -/
def timeout {m : Type → Type} [Monad m] (w : World m) (seconds : Nat)
    (next : Handler m) : Handler m := fun r => do
  match ← w.within seconds (next r) with
  | some a => return a
  | none => return .bare .requestTimeout

end Gatehouse.Chain
