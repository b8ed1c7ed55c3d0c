import Gatehouse.Proofs.Chain.Annotation
import Gatehouse.Server

/-!
# What is left of the gate's own headers

Three layers of a chain write to the backend: the filter writes the country
of the client, another layer when the request arrived, and a third that
files can be served for it. The request then comes to the forwarder, who
takes out everything that ends with the connection of the client, and what
ends with it is for the client to declare. The forwarder cannot tell the
headers of the gate from those of the client any more.

So a client that knows the names can have them removed. What arrives is
stated exactly here: each of the three headers as its layer has set it,
unless `Connection` names it. The headers that tell where a request comes
from are not concerned. The forwarder writes them after it has taken the
others out.
-/

namespace Gatehouse.Forward

open Http Chain Exchange

variable {β : Type}

/-! ## A backend that can be out of reach -/

/-- How a backend is met over a connection: the milliseconds it takes, and
the response, if one comes back. It has met the request before any time
passes. -/
abbrev Line (β : Type) := Request → StateM β (Nat × Option Response)

/-- **The connector over a line.** -/
def dial (l : Line β) : Connector (Exchange β) := fun r => do
  let s ← get
  let ((delay, response?), state) := l r s.backend
  set { s with backend := state }
  sleep delay
  return response?

theorem dial_apply (l : Line β) (r : Request) (s : Scene β) :
    dial l r s
      = (sleep (l r s.backend).1.1 >>= fun _ => pure (l r s.backend).1.2)
          { s with backend := (l r s.backend).2 } := rfl

theorem notes_dial (l : Line β) (q : Request) (u : Scene (β × List Request)) :
    (dial (noting l) q u).2.backend.2 = u.backend.2 ++ [q] := by
  rw [dial_apply, ((Quiet.sleep _).bind (fun _ => .pure _) _).1]
  rfl

/-! ## The forwarder passes requests on -/

section Forwarding

variable (files : Files.Disk) (choose : Cache.Chooser) (f : Forwarder)
variable (connect : Connector (Exchange β))

theorem passes_forward :
    Passes (f.forward (world files choose) connect) connect
      (fun _ r => f.outgoing? r) False := by
  intro r
  show Asks connect (fun _ => f.outgoing? r) False _
  unfold Forwarder.forward
  cases f.outgoing? r with
  | none => exact .nothing (.after (.report files choose _) fun _ => .pure _)
  | some out =>
    refine .after (.report files choose _) fun _ => (Asks.self connect out).bind fun a => ?_
    cases a with
    | none => exact .after (.report files choose _) fun _ => .pure _
    | some a => exact .pure _

theorem passes_handle :
    Passes (f.handle (world files choose) connect) connect
      (fun _ r => if Forwarder.hasPath r then f.outgoing? r else none) False := by
  intro r
  show Asks connect (fun _ => if Forwarder.hasPath r then f.outgoing? r else none) False _
  unfold Forwarder.handle
  cases Forwarder.hasPath r with
  | true => exact passes_forward files choose f connect r
  | false => exact .nothing (.pure _)

end Forwarding

/-! ## The headers that the forwarder lets through -/

/-- The names of the headers that a forwarder writes itself. -/
def originNames : List String :=
  [Country.forwardedFor, forwardedHost, forwardedProto]

section Origin

variable {h : Headers} {name : String}

theorem values_withDefault {n : String} (value : Option Bytes) (hname : name ≠ n) :
    (withDefault h n value).values name = h.values name := by
  unfold withDefault
  split
  · rfl
  · cases value with
    | none => rfl
    | some v => rw [Headers.values_insert, if_neg (Ne.symm hname)]

theorem values_withTrail (peer : Option Endpoint)
    (hname : name ≠ Country.forwardedFor) :
    (withTrail h peer).values name = h.values name := by
  unfold withTrail
  split
  · rfl
  · split
    · rw [Headers.values_insert, if_neg (Ne.symm hname)]
    · rfl

/-- The account of a client is given in three headers. -/
theorem values_withOrigin (peer : Option Endpoint) (trustIncoming : Bool)
    (hname : name ∉ originNames) :
    (withOrigin h peer trustIncoming).values name = h.values name := by
  obtain ⟨htrail, hhost, hproto⟩ : name ≠ Country.forwardedFor ∧ name ≠ forwardedHost
      ∧ name ≠ forwardedProto := by
    simpa [originNames] using hname
  unfold withOrigin
  dsimp only
  rw [values_withDefault _ hproto, values_withDefault _ hhost, values_withTrail _ htrail]
  split
  · rfl
  · exact (Headers.values_eraseAll ..).trans (if_neg hname)

/-- What ends with a connection is read off one header. -/
theorem declaredHops_congr {h h' : Headers}
    (heq : h.values "connection" = h'.values "connection") :
    declaredHops h = declaredHops h' := by
  unfold declaredHops
  rw [heq]

/-- **What goes out**: of any other name the values that came in, unless the
name ends with the connection. -/
theorem values_outgoing {f : Forwarder} {q out : Request}
    (hout : f.outgoing? q = some out) (hname : name ∉ originNames) :
    out.headers.values name
      = if name ∈ hopNames ++ declaredHops q.headers then []
        else q.headers.values name := by
  obtain ⟨uri, -, rfl⟩ := Option.map_eq_some_iff.mp hout
  show (withOrigin (withoutHops q.headers) q.peer f.trustIncoming).values name = _
  rw [values_withOrigin _ _ hname, values_withoutHops]

end Origin

end Gatehouse.Forward

namespace Gatehouse

open Http Chain Forward Country Exchange

variable {β : Type}

/-! ## The server -/

/-- **A server asks** about what its forwarder makes of the request that its
chain hands on, where the chain asks at all. -/
theorem Server.asked_serve (files : Files.Disk) (choose : Cache.Chooser) (v : Server)
    (connect : Connector (Exchange β)) (r : Request) (s : Scene β) :
    Asked connect
      ((v.plan.onward s.millis r).bind fun q =>
        if Forwarder.hasPath q then v.forwarder.outgoing? q else none)
      (v.plan.Overdue s.clock ∨ v.plan.cacheEnabled = true
        ∧ ∃ q, v.plan.onward s.millis r = some q ∧ Found q s) s
      (v.serve (world files choose) connect r s).2 :=
  ((Chain.asked_serve files choose v.plan
      (v.forwarder.handle (world files choose) connect) r s).trans
    (f := fun _ q => if Forwarder.hasPath q then v.forwarder.outgoing? q else none)
    (passes_handle files choose v.forwarder connect)).imp fun h => h.resolve_right id

/-- **A server passes on** what its forwarder makes of the request that its
chain hands on. -/
theorem Server.passes_serve (files : Files.Disk) (choose : Cache.Chooser) (v : Server)
    (connect : Connector (Exchange β)) :
    Passes (v.serve (world files choose) connect) connect
      (fun millis r => (v.plan.onward millis r).bind fun q =>
        if Forwarder.hasPath q then v.forwarder.outgoing? q else none)
      (v.plan.requestSecs = 0 ∨ v.plan.cacheEnabled = true) :=
  fun r s => (v.asked_serve files choose connect r s).imp
    (Or.imp (fun htime => (Plan.overdue_iff.mp htime).1) And.left)

/-- What a chain hands on declares as much as the request that came in. -/
theorem declaredHops_onward {p : Plan} {millis : Nat} {r q : Request}
    (h : p.onward millis r = some q) :
    declaredHops q.headers = declaredHops r.headers :=
  declaredHops_congr (Plan.values_of_onward h (by decide) (by decide) (by decide))

/-- **What a backend meets is what goes out**: a request that the chain has
handed on, addressed to the backend by the forwarder. -/
theorem Server.outgoing_of_mem_meetings {files : Files.Disk} {choose : Cache.Chooser}
    {v : Server} {l : Line β} {r out : Request} {s : Scene β}
    (h : out ∈ meetings (v.serve (world files choose) (dial (noting l))) r s) :
    ∃ q, v.plan.onward s.millis r = some q ∧ v.forwarder.outgoing? q = some out := by
  rcases (v.passes_serve files choose _).meetings_eq (notes_dial l) r s with hseen | ⟨-, hseen⟩
  · rw [hseen] at h
    obtain ⟨q, honward, hout⟩ := Option.bind_eq_some_iff.mp (Option.mem_toList.mp h)
    refine ⟨q, honward, ?_⟩
    split at hout
    · exact hout
    · cases hout
  · rw [hseen] at h
    cases h

/-- **What a backend meets if nothing is in the way**: the request that a
chain hands on can be addressed and is met in time, unless a cache finds
something fresh for it. -/
theorem Server.length_meetings_of_not_found {v : Server} {r : Request}
    (files : Files.Disk) (choose : Cache.Chooser) (l : Line β) (s : Scene β)
    (htime : ¬ v.plan.Overdue s.clock)
    (hfound : v.plan.cacheEnabled = true →
      ∀ q, v.plan.onward s.millis r = some q → ¬ Found q s)
    (honward : v.plan.onward s.millis r ≠ none)
    (hpath : Forwarder.hasPath r = true) (huri : v.forwarder.target.uriFor? r.uri ≠ none) :
    (meetings (v.serve (world files choose) (dial (noting l))) r s).length = 1 := by
  obtain ⟨q, honward⟩ := Option.ne_none_iff_exists'.mp honward
  have hsame : q.uri = r.uri := (Plan.rest_of_onward honward).2.1
  obtain ⟨uri, huri⟩ := Option.ne_none_iff_exists'.mp huri
  obtain ⟨out, hout⟩ : ∃ out, v.forwarder.outgoing? q = some out := by
    unfold Forwarder.outgoing?
    rw [hsame, huri]
    exact ⟨_, rfl⟩
  have hhas : Forwarder.hasPath q = true := by
    unfold Forwarder.hasPath at hpath ⊢
    rwa [hsame]
  have hasked := v.asked_serve files choose (dial (noting l)) r
    (s.withBackend (s.backend, []))
  rcases hasked.met (notes_dial l) with hseen | ⟨hspare, -⟩
  · have honward : v.plan.onward (s.withBackend (s.backend, ([] : List Request))).millis r
        = some q := honward
    rw [honward, Option.bind_some, if_pos hhas, hout] at hseen
    exact congrArg List.length hseen
  · obtain ⟨hcache, q', honward', hspare⟩ := hspare.resolve_left htime
    exact absurd hspare (hfound hcache q' honward')

/-- Without a cache nothing is found. -/
theorem Server.length_meetings {v : Server} {r : Request} (files : Files.Disk)
    (choose : Cache.Chooser) (l : Line β) (s : Scene β)
    (htime : ¬ v.plan.Overdue s.clock) (hcache : v.plan.cacheEnabled = false)
    (honward : v.plan.onward s.millis r ≠ none)
    (hpath : Forwarder.hasPath r = true) (huri : v.forwarder.target.uriFor? r.uri ≠ none) :
    (meetings (v.serve (world files choose) (dial (noting l))) r s).length = 1 :=
  Server.length_meetings_of_not_found files choose l s htime
    (fun hcache' => absurd (hcache.symm.trans hcache') Bool.false_ne_true) honward hpath huri

/-- **The headers of the gate, and how a client gets rid of them.** A server
sends three headers of its own: the country, where it is told, the time at
which the request arrived, and the offer to serve files, where they are
served. Each of them reaches the backend, whatever headers the client sends,
if and only if no readable value of the client's `Connection` names it. A
request does reach the backend if there is time for it and no cache, if no
filter turns it away, and if it can be addressed and announces no more than
it may. -/
theorem Server.serve_ownHeaders (v : Server) (files : Files.Disk)
    (choose : Cache.Chooser) (l : Line β) (r : Request) (s : Scene β) :
    let seen := meetings (v.serve (world files choose) (dial (noting l))) r s
    (∀ out ∈ seen,
      (∀ f code, v.plan.filter = some f → Told f r code →
        out.headers.values countryHeader
          = if countryHeader ∈ declaredHops r.headers then []
            else [Bytes.ofString code])
      ∧ (out.headers.contains startHeader = true
        ↔ startHeader ∉ declaredHops r.headers)
      ∧ (v.plan.xSendfile = true →
        out.headers.values sendfileType
          = if sendfileType ∈ declaredHops r.headers then []
            else [Bytes.ofString "X-Sendfile"]))
    ∧ (0 < v.plan.requestSecs → v.plan.cacheEnabled = false →
      (∀ f, v.plan.filter = some f → ¬ Denied f r) →
      (0 < v.plan.maxRequestBody →
        ∀ n, declaredLength? r = some n → n ≤ v.plan.maxRequestBody) →
      Forwarder.hasPath r = true → v.forwarder.target.uriFor? r.uri ≠ none →
      seen.length = 1) := by
  intro seen
  refine ⟨fun out hseen => ?_, fun hsecs hcache hpass hlimit hpath huri =>
    Server.length_meetings files choose l s (Plan.not_overdue_of_pos hsecs _) hcache
      (Plan.onward_ne_none hpass hlimit) hpath huri⟩
  obtain ⟨q, honward, hout⟩ := Server.outgoing_of_mem_meetings hseen
  -- for a header that is none of the forwarder's, only what is declared counts
  have hvalues (name : String) (horigin : name ∉ originNames) (hhop : name ∉ hopNames) :
      out.headers.values name
        = if name ∈ declaredHops r.headers then [] else q.headers.values name := by
    rw [values_outgoing hout horigin, declaredHops_onward honward]
    simp only [List.mem_append, hhop, false_or]
  obtain ⟨r', hinward, -⟩ := Plan.exists_inward_of_onward honward
  refine ⟨fun f code hfilter htold => ?_, ?_, fun hsendfile => ?_⟩
  · have hadmitted : v.plan.inward s.millis (admitted f r) = some q :=
      (Plan.inward_of_onward hfilter honward).2
    rw [hvalues _ (by decide) (by decide),
      Plan.values_of_inward hadmitted (by decide) (by decide),
      admitted_of_told htold, Headers.values_insert, if_pos rfl]
  · have hstamp : q.headers.values startHeader ≠ [] :=
      Headers.contains_eq_true_iff.mp (Plan.contains_startHeader_of_inward hinward)
    rw [Headers.contains_eq_true_iff, hvalues _ (by decide) (by decide)]
    by_cases hdeclared : startHeader ∈ declaredHops r.headers
    · simp [hdeclared]
    · simpa [hdeclared] using hstamp
  · rw [hvalues _ (by decide) (by decide),
      Plan.values_sendfileType_of_inward hinward hsendfile]

/-- A server in front of a local backend, without a cache and with a filter
that finds everybody in Germany. -/
def germanGate : Server :=
  ⟨{ uncached with filter := some inGermany }, ⟨⟨"127.0.0.1:3000", ""⟩, false, none⟩⟩

/-- A line that counts the requests it carries. -/
def answering : Line Nat := fun _ n => ((0, some (Response.bare .ok)), n + 1)

/-- A visit with one value of `Connection`. -/
def declaring (connection : String) : Request :=
  { visit .get with headers := ⟨[⟨"connection", Bytes.ofString connection⟩]⟩ }

/-- A client that declares nothing of the gate's gets rid of nothing. -/
theorem Server.serve_ownHeaders_closing :
    Told inGermany (declaring "close") "DE"
      ∧ ∃ out ∈ meetings (germanGate.serve (world .empty fun _ => 0)
          (dial (noting answering))) (declaring "close") opening,
        out.headers.values countryHeader = [Bytes.ofString "DE"]
        ∧ out.headers.contains startHeader = true
        ∧ out.headers.values sendfileType = [Bytes.ofString "X-Sendfile"] := by
  have htold : Told inGermany (declaring "close") "DE" :=
    ⟨.v4 ⟨203, 0, 113, 1⟩, by decide +kernel, by decide +kernel, by decide,
      by decide +kernel⟩
  obtain ⟨hheaders, hreached⟩ := Server.serve_ownHeaders germanGate .empty
    (fun _ => 0) answering (declaring "close") opening
  have hpass : ∀ f, germanGate.plan.filter = some f → ¬ Denied f (declaring "close") := by
    rintro _ ⟨⟩
    decide +kernel
  have hlength := hreached (by decide) rfl hpass
    (fun _ n hn => absurd hn (by decide +kernel +revert)) (by decide +kernel)
    (by decide +kernel)
  obtain ⟨out, hout⟩ := List.exists_mem_of_length_pos (hlength.symm ▸ Nat.one_pos)
  obtain ⟨hcountry, hstart, hsendfile⟩ := hheaders out hout
  refine ⟨htold, out, hout, ?_, hstart.mpr (by decide +kernel), ?_⟩
  · rw [hcountry inGermany "DE" rfl htold, if_neg (by decide +kernel)]
  · rw [hsendfile rfl, if_neg (by decide +kernel)]

/-- **A client that gets rid of all three**: the backend meets its request
without its country, without a time and without the offer to serve files. -/
theorem Server.ownHeaders_declared :
    Told inGermany (declaring "x-geoip-country, X-Request-Start, x-sendfile-type") "DE"
      ∧ ∃ out ∈ meetings (germanGate.serve (world .empty fun _ => 0)
          (dial (noting answering)))
          (declaring "x-geoip-country, X-Request-Start, x-sendfile-type") opening,
        out.headers.values countryHeader = []
        ∧ out.headers.contains startHeader = false
        ∧ out.headers.values sendfileType = [] := by
  refine ⟨⟨.v4 ⟨203, 0, 113, 1⟩, by decide +kernel, by decide +kernel, by decide,
    by decide +kernel⟩, by decide +kernel⟩

end Gatehouse
