import Gatehouse.Proofs.Forward.Delivery

/-!
# What a server leaves alone

Between a client and the backend a request is taken through every layer of
the chain and through the forwarder, and each of them may set a header, take
one out or cut the body. This module says what all of them together leave as
it was. Six names belong to the server, which writes headers of its own under
them. What ends with the connection goes, and that is for the client to
declare, in as many `Connection` lines as it likes. Everything else arrives:
the method, all values of all other headers in their order, and the body.

The body has one reservation. Where a limit is set, no more of a body is read
than the limit and the length that was announced for it. A body comes in frames,
and of a longer one those are read that fit. It is not cut short in silence.
Whoever reads it fails at the first frame that does not fit.
-/

namespace Gatehouse.Chain

open Http

variable {p : Plan} {r : Request}

/-- A body that is no longer than it may be can be read as it is. -/
theorem Plan.readable_of_le
    (h : 0 < p.maxRequestBody → r.body.data.length ≤ allowance p.maxRequestBody r) :
    p.readable r = r.body := by
  unfold Plan.readable
  by_cases hpos : p.maxRequestBody > 0
  · rw [if_pos hpos]
    exact if_pos (h hpos)
  · rw [if_neg hpos]

/-- Reading a longer one fails behind the frames that fit. -/
theorem Plan.readable_of_lt (hpos : 0 < p.maxRequestBody)
    (h : allowance p.maxRequestBody r < r.body.data.length) :
    p.readable r = { r.body with
      data := r.body.data.take (Body.fitting r.body.frames (allowance p.maxRequestBody r))
      complete := false } := by
  unfold Plan.readable
  rw [if_pos hpos]
  exact if_neg (Nat.not_le.mpr h)

end Gatehouse.Chain

namespace Gatehouse.Forward

open Http Text

/-- **A name that `Connection` names**: without the blanks around it, and in
some case of letters, it is an entry of a value that can be read. -/
def NamedHop (h : Headers) (name : String) : Prop :=
  ∃ value ∈ h.values "connection", ∃ text, value.text? = some text
    ∧ ∃ entry ∈ commaPieces text, isToken (trim entry) = true ∧ lower (trim entry) = name

/-- **What ends with a connection**: nine names always do, and those that
`Connection` names. -/
def EndsWithConnection (h : Headers) (name : String) : Prop :=
  name ∈ ["connection", "proxy-authenticate", "proxy-authorization", "te", "trailer",
      "transfer-encoding", "upgrade", "keep-alive", "proxy-connection"]
    ∨ NamedHop h name

theorem fieldName?_eq_some_iff {s name : String} :
    fieldName? s = some name ↔ isToken s = true ∧ lower s = name := by
  unfold fieldName?
  by_cases hs : isToken s = true
  · rw [if_pos hs, Option.some_inj, and_iff_right hs]
  · rw [if_neg hs]
    exact iff_of_false nofun fun h => hs h.1

/-- **What is declared is what is named.** -/
theorem mem_declaredHops_iff {h : Headers} {name : String} :
    name ∈ declaredHops h ↔ NamedHop h name := by
  unfold declaredHops NamedHop
  simp only [List.mem_flatMap, List.mem_filterMap, fieldName?_eq_some_iff]
  constructor
  · rintro ⟨text, ⟨value, hvalue, htext⟩, entry, hentry⟩
    exact ⟨value, hvalue, text, htext, entry, hentry⟩
  · rintro ⟨value, hvalue, text, htext, entry, hentry⟩
    exact ⟨text, ⟨value, hvalue, htext⟩, entry, hentry⟩

/-- What is taken out is what ends with the connection. -/
theorem mem_hops_iff {h : Headers} {name : String} :
    name ∈ hopNames ++ declaredHops h ↔ EndsWithConnection h name := by
  rw [List.mem_append, mem_declaredHops_iff]
  rfl

end Gatehouse.Forward

namespace Gatehouse

open Http Chain Forward Country Exchange

variable {β : Type}

/-- The names under which a server writes headers of its own. -/
def Server.ownNames : List String :=
  [countryHeader, startHeader, sendfileType] ++ originNames

/-- **What arrives of a request.** Whatever the configuration, the headers of
the request and what was asked before: a request that the backend meets has
the method of the one that came in, and its body, unless that is longer than
the limit or than announced; then the frames of it that fit, and reading fails
behind them. Of every header that is none of the server's own, the values arrive as
they came, all of them and in their order. The exceptions are the nine names
that always end with a connection and those that `Connection` names. Of these
nothing arrives. -/
theorem Server.serve_frame (v : Server) (files : Files.Disk) (choose : Cache.Chooser)
    (l : Line β) (r : Request) (s : Scene β) :
    ∀ out ∈ meetings (v.serve (world files choose) (dial (noting l))) r s,
      out.method = r.method
      ∧ ((0 < v.plan.maxRequestBody →
          r.body.data.length ≤ allowance v.plan.maxRequestBody r) →
        out.body = r.body)
      ∧ (0 < v.plan.maxRequestBody →
        allowance v.plan.maxRequestBody r < r.body.data.length →
        out.body = { r.body with
          data := r.body.data.take
            (Body.fitting r.body.frames (allowance v.plan.maxRequestBody r))
          complete := false })
      ∧ ∀ name ∉ Server.ownNames,
        (EndsWithConnection r.headers name → out.headers.values name = [])
        ∧ (¬ EndsWithConnection r.headers name →
          out.headers.values name = r.headers.values name) := by
  intro out hseen
  obtain ⟨q, honward, hout⟩ := Server.outgoing_of_mem_meetings hseen
  obtain ⟨hmethod, -, hbody⟩ := Plan.rest_of_onward honward
  -- the forwarder touches the URI and the headers
  have hkept : out.method = q.method ∧ out.body = q.body := by
    obtain ⟨uri, -, rfl⟩ := Option.map_eq_some_iff.mp hout
    exact ⟨rfl, rfl⟩
  have hbody : out.body = v.plan.readable r := hkept.2.trans hbody
  refine ⟨hkept.1.trans hmethod, fun hfits => ?_, fun hpos hlong => ?_, fun name hname => ?_⟩
  · rw [hbody, Plan.readable_of_le hfits]
  · rw [hbody, Plan.readable_of_lt hpos hlong]
  · simp only [Server.ownNames, List.mem_append, List.mem_cons, List.not_mem_nil,
      or_false, not_or] at hname
    obtain ⟨⟨hcountry, hstart, htype⟩, horigin⟩ := hname
    have hvalues := values_outgoing hout horigin
    rw [declaredHops_onward honward, Plan.values_of_onward honward hcountry hstart htype]
      at hvalues
    refine ⟨fun hhop => ?_, fun hhop => ?_⟩
    · rw [hvalues, if_pos (mem_hops_iff.mpr hhop)]
    · rw [hvalues, if_neg fun h => hhop (mem_hops_iff.mp h)]

/-- A client that sends a body, accepts two things, and keeps one of its
headers for the connection. -/
def posting (body : String) : Request :=
  { visit ⟨"POST"⟩ with
    headers := ⟨[⟨"accept", Bytes.ofString "text/html"⟩, ⟨"te", Bytes.ofString "trailers"⟩,
      ⟨"x-token", Bytes.ofString "1"⟩, ⟨"connection", Bytes.ofString "close,\t X-Token"⟩,
      ⟨"accept", Bytes.ofString "text/plain"⟩]⟩
    body := Body.ofString body }

/-- Such a client with a longer body, in frames of four bytes and ten. -/
def rambling : Request :=
  { posting "" with body := ⟨Bytes.ofString "too long a body", false, true, [4, 10]⟩ }

/-- What the backend meets of such clients: the short body arrives, the long
one breaks off behind its first frame, as the second one does not fit into eight
bytes, and what is for the connection is gone. -/
theorem Server.serve_frame_posting :
    (∃ out ∈ meetings (germanGate.serve (world .empty fun _ => 0)
        (dial (noting answering))) (posting "short") opening,
      out.method = ⟨"POST"⟩ ∧ out.body = Body.ofString "short"
      ∧ out.headers.values "accept"
        = [Bytes.ofString "text/html", Bytes.ofString "text/plain"]
      ∧ out.headers.values "te" = [] ∧ out.headers.values "x-token" = [])
    ∧ ∃ out ∈ meetings (germanGate.serve (world .empty fun _ => 0)
        (dial (noting answering))) rambling opening,
      out.body.data = Bytes.ofString "too " ∧ out.body.read? = none := by
  -- neither the filter nor the limit looks at what is in a body
  have hmet (body : Body) : ∃ out, out ∈ meetings (germanGate.serve
      (world .empty fun _ => 0) (dial (noting answering)))
      { posting "" with body := body } opening := by
    have hpass : ∀ f, germanGate.plan.filter = some f →
        ¬ Denied f { posting "" with body := body } := by
      rintro _ ⟨⟩
      exact show ¬ Denied inGermany (posting "") by decide +kernel
    have hlength : declaredLength? { posting "" with body := body } = none :=
      show declaredLength? (posting "") = none by decide +kernel
    have hpath : Forwarder.hasPath { posting "" with body := body } = true :=
      show Forwarder.hasPath (posting "") = true by decide +kernel
    have huri : germanGate.forwarder.target.uriFor? (posting "").uri ≠ none := by
      decide +kernel
    have honward : germanGate.plan.onward opening.millis { posting "" with body := body }
        ≠ none :=
      Plan.onward_ne_none hpass fun _ n hn => by rw [hlength] at hn; cases hn
    have hone := Server.length_meetings .empty (fun _ => 0) answering opening
      (Plan.not_overdue_of_pos (by decide) _) rfl honward hpath huri
    exact List.exists_mem_of_length_pos (hone.symm ▸ Nat.one_pos)
  have hframe (r : Request) := Server.serve_frame germanGate .empty (fun _ => 0)
    answering r opening
  refine ⟨?_, ?_⟩
  · obtain ⟨out, hout⟩ := hmet (Body.ofString "short")
    obtain ⟨hmethod, hshort, -, hvalues⟩ := hframe (posting "short") out hout
    have htoken : NamedHop (posting "short").headers "x-token" :=
      mem_declaredHops_iff.mp (by decide +kernel)
    have haccept : ¬ EndsWithConnection (posting "short").headers "accept" := by
      rw [← mem_hops_iff]
      decide +kernel
    exact ⟨out, hout, hmethod, hshort fun _ => by decide +kernel,
      (hvalues "accept" (by decide)).2 haccept,
      (hvalues "te" (by decide)).1 (Or.inl (by decide)),
      (hvalues "x-token" (by decide)).1 (Or.inr htoken)⟩
  · obtain ⟨out, hout⟩ := hmet rambling.body
    obtain ⟨-, -, hlong, -⟩ := hframe rambling out hout
    have hbody := hlong (by decide) (by decide +kernel)
    refine ⟨out, hout, ?_, ?_⟩
    · rw [hbody]
      decide +kernel
    · rw [hbody]
      rfl

end Gatehouse
