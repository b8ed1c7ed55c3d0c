import Gatehouse.Address.Zone
import Gatehouse.Country.Policy

/-!
# The verdict on an address

The filter asks for the country of an address and applies the policy to the
answer. It fails open: an address that is trusted by its zone, has no
record, or cannot be looked up passes.

`Policy.evaluateM` is written for a lookup with effects, so that whoever
runs it sees when the lookup is asked and how often; `Policy.evaluate` is
the same decision for a lookup that is a function.
-/

namespace Gatehouse.Country

/-- Why a lookup failed. -/
structure LookupError where
  reason : String
deriving DecidableEq, Inhabited

/-- The text of a lookup failure. -/
def LookupError.message (e : LookupError) : String :=
  "geoip database error: " ++ e.reason

/-- The answer of a country lookup: a code, which may be empty, or no
record, or a failure. -/
abbrev Answer := Except LookupError (Option String)

/-- A country lookup. -/
abbrev Lookup := Address → Answer

/-- What was decided about an address. -/
inductive Verdict where
  /-- The zone is trusted, and no lookup was made. -/
  | trusted (zone : Zone)
  /-- The lookup failed; the address passes. -/
  | lookupFailed (error : LookupError)
  /-- There is no record; the address passes. -/
  | unknown
  /-- The country passed the policy. -/
  | allowed (country : String)
  /-- A list turned the country away. -/
  | denied (country : String) (list : PolicyList)
deriving DecidableEq, Inhabited

namespace Verdict

/-- The code to pass on to the backend: a country that was allowed, unless
its code is empty. -/
def annotation : Verdict → Option String
  | .allowed country => if country = "" then none else some country
  | _ => none

/-- Whether the request is turned away. -/
def isDenied : Verdict → Bool
  | .denied _ _ => true
  | _ => false

/-- The name under which verdicts are counted. -/
def label : Verdict → String
  | .trusted _ => "trusted"
  | .lookupFailed _ => "lookup_failed"
  | .unknown => "unknown"
  | .allowed _ => "allowed"
  | .denied _ _ => "denied"

end Verdict

namespace Policy

/-- What the policy makes of the answer to a lookup. -/
def judge (p : Policy) : Answer → Verdict
  | .error e => .lookupFailed e
  | .ok none => .unknown
  | .ok (some country) =>
    match p.rejects country with
    | some list => .denied country list
    | none => .allowed country

/-- **The verdict on an address.** The lookup is asked once, and only about
addresses that are not trusted. -/
def evaluateM {m : Type → Type} [Monad m] (p : Policy)
    (lookup : Address → m Answer) (a : Address) : m Verdict :=
  if a.zone.isTrusted then pure (.trusted a.zone)
  else do return p.judge (← lookup a)

/-- The verdict on an address by a lookup without effects. -/
def evaluate (p : Policy) (lookup : Lookup) (a : Address) : Verdict :=
  Id.run (p.evaluateM (fun x => pure (lookup x)) a)

theorem evaluate_eq (p : Policy) (lookup : Lookup) (a : Address) :
    p.evaluate lookup a
      = if a.zone.isTrusted then .trusted a.zone else p.judge (lookup a) := by
  unfold evaluate evaluateM
  split <;> rfl

end Policy

/-- **A country filter**: a policy and the lookup it is applied to. -/
structure Filter where
  policy : Policy
  lookup : Lookup

namespace Filter

/-- The verdict on an address. -/
def evaluate (f : Filter) (a : Address) : Verdict :=
  f.policy.evaluate f.lookup a

/-- The filter as messages show it. -/
def toText (f : Filter) : String :=
  "CountryFilter \x7b policy: " ++ f.policy.toText ++ ", .. \x7d"

end Filter

end Gatehouse.Country
