import Mathlib
import Gatehouse.Chain.Assembly

/-!
# The order that is told is the order that is built

A plan tells its layers twice. One telling is a list of names from the
outside in, which is what an operator reads in the log; the other wraps a
handler from the inside out, which is what a request meets. Each has its own
conditions, and nothing in either keeps the two together.

To compare them, the list is given a meaning of its own. Every name stands
for one layer (`Plan.layerNamed?`), and a list of names for the handler that
the layers make around an innermost one, the first name outermost
(`Plan.stack?`). A list with an unknown name, or one that does not end with
`proxy`, stands for nothing. What is then shown holds in every world and of
every handler, so also of what happens on the way from the first layer to
the last.
-/

namespace Gatehouse.Chain

variable {m : Type → Type} [Monad m]

namespace Plan

/-- **The layer that a name stands for**, with the values of the plan. -/
def layerNamed? (p : Plan) (w : World m) : String → Option (Handler m → Handler m)
  | "trace" => some (trace w)
  | "request_log" => some (requestLog w)
  | "timeout" => some (timeout w p.requestSecs)
  | "country_filter" => p.filter.map (countryGuard w)
  | "body_limit" => some (bodyLimit p.maxRequestBody)
  | "compression" => some compression
  | "request_start" => some (requestStart w)
  | "sendfile" => some (sendfile w)
  | "cache" => some (caching w)
  | _ => none

/-- **The handler that a list of names stands for**, around the handler that
`proxy` stands for. -/
def stack? (p : Plan) (w : World m) (inner : Handler m) : List String → Option (Handler m)
  | [] => none
  | ["proxy"] => some inner
  | name :: rest => do
    let layer ← p.layerNamed? w name
    let next ← p.stack? w inner rest
    return layer next

section Stack

variable {p : Plan} {w : World m} {inner next : Handler m} {rest : List String}
variable {layer : Handler m → Handler m}

/-- A name in front of a list wraps what the list stands for. -/
theorem stack?_cons (name : String) (hlayer : p.layerNamed? w name = some layer)
    (hrest : p.stack? w inner rest = some next) :
    p.stack? w inner (name :: rest) = some (layer next) := by
  have hname : name = "proxy" → rest ≠ [] := by
    rintro rfl
    cases hlayer
  rw [stack?, hlayer, hrest]
  · rfl
  · exact hname

/-- A name that is listed under a condition wraps under the same. -/
theorem stack?_append_if (name : String) (c : Prop) [Decidable c]
    (hlayer : c → p.layerNamed? w name = some layer)
    (hrest : p.stack? w inner rest = some next) :
    p.stack? w inner ((if c then [name] else []) ++ rest)
      = some (wrapIf (decide c) layer next) := by
  by_cases hc : c
  · rw [if_pos hc, decide_eq_true hc]
    exact stack?_cons name (hlayer hc) hrest
  · rw [if_neg hc, decide_eq_false hc]
    exact hrest

/-- The filter is listed where there is one, and wraps there. -/
theorem stack?_append_filter (hrest : p.stack? w inner rest = some next) :
    p.stack? w inner ((if p.filter.isSome then ["country_filter"] else []) ++ rest)
      = some (match p.filter with
        | some f => countryGuard w f next
        | none => next) := by
  have hlayer : p.layerNamed? w "country_filter" = p.filter.map (countryGuard w) := rfl
  cases hfilter : p.filter with
  | none => exact hrest
  | some f =>
    rw [hfilter] at hlayer
    exact stack?_cons "country_filter" hlayer hrest

end Stack

/-- **The advertised order is the real one.** Whatever the plan, with a
filter or without: the names that it lists, each taken for its own layer and
`proxy` for the innermost handler, stand for the chain that is built around
that handler, and for nothing more. -/
theorem stack?_layers (p : Plan) (w : World m) (inner : Handler m) :
    p.stack? w inner p.layers = some (p.build w inner) := by
  -- from the inside, as the chain is built
  have hproxy : p.stack? w inner ["proxy"] = some inner := rfl
  have hcache := stack?_append_if "cache" (p.cacheEnabled = true)
    (fun _ => rfl) hproxy
  have hsendfile := stack?_append_if "sendfile" (p.xSendfile = true)
    (fun _ => rfl) hcache
  have hstart := stack?_cons "request_start" rfl hsendfile
  have hgzip := stack?_append_if "compression" (p.gzipCompression = true)
    (fun _ => rfl) hstart
  have hlimit := stack?_append_if "body_limit" (p.maxRequestBody > 0)
    (fun _ => rfl) hgzip
  have hfilter := stack?_append_filter hlimit
  have htimeout := stack?_cons "timeout" rfl hfilter
  have hlog := stack?_append_if "request_log" (p.logRequests = true)
    (fun _ => rfl) htimeout
  have htrace := stack?_cons "trace" rfl hlog
  simp only [Bool.decide_eq_true] at htrace
  unfold layers
  simp only [List.append_assoc]
  exact htrace

end Plan

end Gatehouse.Chain
