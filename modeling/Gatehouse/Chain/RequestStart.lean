import Gatehouse.Chain.World

/-!
# Stamping the start of a request

The backend is told when a request arrived, so that it can tell how long it
waited. A stamp that an earlier proxy has left is kept.
-/

namespace Gatehouse.Chain

open Http

/-- The header that tells when a request arrived. -/
def startHeader : String := "x-request-start"

/-- **Stamps** requests that have no stamp. -/
def requestStart {m : Type → Type} [Monad m] (w : World m) (next : Handler m) :
    Handler m := fun r => do
  if r.headers.contains startHeader then next r
  else
    let stamp := Bytes.ofString ("t=" ++ toString (← w.millis))
    next { r with headers := r.headers.insert startHeader stamp }

end Gatehouse.Chain
