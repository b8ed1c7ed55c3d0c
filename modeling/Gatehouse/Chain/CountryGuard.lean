import Gatehouse.Chain.World
import Gatehouse.Country.Client

/-!
# The country guard

The guard stands in front of everything that could answer a request. It
turns away clients whose country the policy rejects, and tells the backend
the country of the others where one was resolved. A request whose client
has no readable address passes as it is.
-/

namespace Gatehouse.Chain

open Http Country

/-- The response to a request that was turned away. -/
def accessDenied : Response := .text .forbidden "Access denied"

/-- What a verdict leaves in the records beside the decision itself. -/
def noteVerdict {m : Type → Type} [Monad m] (w : World m) (address : Address)
    (v : Verdict) : m Unit := do
  match v with
  | .unknown => w.report (.noRecord address)
  | .lookupFailed e =>
    w.report (.lookupFailed address e)
    w.count .lookupErrors
  | _ => pure ()
  w.count (.decisions v.label)

/-- The request with the country of its client, if the code can be the
value of a header. -/
def annotate? (r : Request) (country : String) : Option Request :=
  (fieldValue? (Bytes.ofString country)).map fun value =>
    { r with
      headers := r.headers.insert countryHeader value
      country := some country }

/-- **Turns away** clients from rejected countries and annotates the other
requests. -/
def countryGuard {m : Type → Type} [Monad m] (w : World m) (f : Filter)
    (next : Handler m) : Handler m := fun r => do
  match clientAddress r.headers r.peer with
  | none =>
    w.report .addressUnreadable
    next r
  | some address =>
    let v := f.evaluate address
    noteVerdict w address v
    match v with
    | .denied country list =>
      w.report (.blocked country address list f.policy.countries)
      return accessDenied
    | v =>
      match v.annotation with
      | none => next r
      | some country =>
        match annotate? r country with
        | some r => next r
        | none =>
          w.report (.countryUnwritable country)
          next r

end Gatehouse.Chain
