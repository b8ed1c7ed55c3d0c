import Gatehouse.Proofs.Cache.Key
import Gatehouse.Proofs.Chain.Caching
import Gatehouse.Proofs.Forward.Delivery

/-!
# The host that a backend is asked for

A cache files an answer under the host that the request names, and the
backend chooses its answer by the host that it is asked for. The two are
looked at in different places: the cache reads the request as the client has
sent it, the backend reads what the forwarder has left of it.

The forwarder leaves `Host` as it is, with one exception. It takes out what
the client declares to end with the connection, and nothing keeps a client
from declaring `Host`. The backend is then asked for no host at all, and what
it answers with, such as the page of its default site, is filed under the
host that the client has named.

Here each entry of a cache in front of a forwarder is traced to the request
that the backend has met for it (`Fetched`), and it is said exactly when that
was a request for the host in the key (`Server.serve_host`).
-/

namespace Gatehouse.Http.Headers

variable {h h' : Headers} {name : String}

theorem text?_congr (heq : h.values name = h'.values name) :
    h.text? name = h'.text? name := by
  unfold text? get?
  rw [heq]

theorem text?_of_values_eq_nil (hnil : h.values name = []) : h.text? name = none := by
  unfold text? get?
  rw [hnil]
  rfl

end Gatehouse.Http.Headers

namespace Gatehouse.Forward

open Http Cache Chain Exchange

variable {β : Type}

/-! ## The header -/

/-- **The host that goes out** is the one that came in, unless it was
declared to end with the connection. -/
theorem values_host_of_outgoing {f : Forwarder} {r out : Request}
    (hout : f.outgoing? r = some out) :
    out.headers.values "host"
      = if "host" ∈ declaredHops r.headers then [] else r.headers.values "host" := by
  have hhop : "host" ∉ hopNames := by decide
  rw [values_outgoing hout (by decide)]
  simp only [List.mem_append, hhop, false_or]

/-- **The host that the cache takes is asked for** if it stands in the header
and goes out. -/
theorem text?_host_eq_hostOf_iff {f : Forwarder} {r out : Request}
    (hout : f.outgoing? r = some out) :
    out.headers.text? "host" = some (hostOf r)
      ↔ (r.headers.text? "host").isSome = true ∧ "host" ∉ declaredHops r.headers := by
  have hvalues := values_host_of_outgoing hout
  by_cases hdeclared : "host" ∈ declaredHops r.headers
  · rw [if_pos hdeclared] at hvalues
    rw [Headers.text?_of_values_eq_nil hvalues]
    exact iff_of_false nofun fun h => h.2 hdeclared
  · rw [if_neg hdeclared] at hvalues
    rw [Headers.text?_congr hvalues, and_iff_left hdeclared]
    unfold hostOf
    cases r.headers.text? "host" <;> simp

/-! ## What the forwarder does with a request -/

/-- **What becomes of a request at the forwarder**: the ending of its
exchange, the scene that it leaves, and what the line has carried. -/
inductive Delivery (f : Forwarder) (l : Line β) (r : Request) (s : Scene β) :
    Except Interrupt Response × Scene β → Prop
  /-- It cannot be addressed, and the backend does not meet it. -/
  | refused {a : Response} {t : Scene β} (hstatus : a.status ≠ Status.ok)
      (hstore : t.store = s.store) (hbackend : t.backend = s.backend) :
      Delivery f l r s (.ok a, t)
  /-- The backend meets it, and there is no time for the answer. -/
  | late {out : Request} {i : Interrupt} {t : Scene β} (hout : f.outgoing? r = some out)
      (hstore : t.store = s.store) (hbackend : t.backend = (l out s.backend).2) :
      Delivery f l r s (.error i, t)
  /-- No answer comes back. -/
  | failed {out : Request} {t : Scene β} (hout : f.outgoing? r = some out)
      (hstore : t.store = s.store) (hbackend : t.backend = (l out s.backend).2) :
      Delivery f l r s (.ok f.badGateway, t)
  /-- The backend answers. -/
  | answered {out : Request} {a : Response} {t : Scene β}
      (hout : f.outgoing? r = some out) (hanswer : (l out s.backend).1.2 = some a)
      (hstore : t.store = s.store) (hbackend : t.backend = (l out s.backend).2) :
      Delivery f l r s (.ok (Forwarder.incoming a), t)

/-- A line has carried its request, whether or not there is time for what
comes back. -/
theorem dial_cases (l : Line β) (out : Request) (s : Scene β) :
    ∃ t, t.store = s.store ∧ t.backend = (l out s.backend).2
      ∧ ((∃ i, dial l out s = (.error i, t))
        ∨ dial l out s = (.ok (l out s.backend).1.2, t)) := by
  have hstore := store_sleep (l out s.backend).1.1 { s with backend := (l out s.backend).2 }
  have hbackend :=
    (Quiet.sleep (l out s.backend).1.1 { s with backend := (l out s.backend).2 }).1
  rw [dial_apply, bind_apply]
  rcases hslept : sleep (l out s.backend).1.1 { s with backend := (l out s.backend).2 }
    with ⟨i | _, t⟩
  · rw [hslept] at hstore hbackend
    exact ⟨t, hstore, hbackend, Or.inl ⟨i, rfl⟩⟩
  · rw [hslept] at hstore hbackend
    exact ⟨t, hstore, hbackend, Or.inr rfl⟩

/-- **Every request becomes one of these.** -/
theorem handle_delivery (files : Files.Disk) (choose : Chooser) (f : Forwarder)
    (l : Line β) (r : Request) (s : Scene β) :
    Delivery f l r s (f.handle (world files choose) (dial l) r s) := by
  unfold Forwarder.handle
  cases Forwarder.hasPath r with
  | false => exact .refused (by decide) rfl rfl
  | true =>
    show Delivery f l r s (f.forward (world files choose) (dial l) r s)
    unfold Forwarder.forward
    cases hout : f.outgoing? r with
    | none =>
      dsimp only
      rw [bind_apply_ok (report_apply files choose _ s)]
      exact .refused (by decide) rfl rfl
    | some out =>
      dsimp only
      rw [bind_apply_ok (report_apply files choose _ s), bind_apply]
      obtain ⟨t, hstore, hbackend, ⟨i, hdial⟩ | hdial⟩ := dial_cases l out
        { s with log := .proxying out.method.name out.uri.toText :: s.log }
      · rw [hdial]
        exact .late hout hstore hbackend
      · rw [hdial]
        cases hanswer : (l out s.backend).1.2 with
        | none => exact .failed hout hstore hbackend
        | some a => exact .answered hout hanswer hstore hbackend

theorem status_badGateway (f : Forwarder) : f.badGateway.status = Status.badGateway := by
  unfold Forwarder.badGateway
  split <;> rfl

/-- **Only the backend says that all is well.** -/
theorem Delivery.answered_of_status {f : Forwarder} {l : Line β} {r : Request}
    {s t : Scene β} {a : Response} (h : Delivery f l r s (.ok a, t))
    (hstatus : a.status = Status.ok) :
    ∃ out b, f.outgoing? r = some out ∧ (l out s.backend).1.2 = some b
      ∧ a = Forwarder.incoming b ∧ t.backend = (l out s.backend).2 := by
  cases h with
  | refused hrefused => exact absurd hstatus hrefused
  | failed =>
    rw [status_badGateway] at hstatus
    exact absurd hstatus (by decide)
  | answered hout hanswer _ hbackend => exact ⟨_, _, hout, hanswer, rfl, hbackend⟩

theorem Delivery.store_eq {f : Forwarder} {l : Line β} {r : Request} {s : Scene β}
    {y : Except Interrupt Response × Scene β} (h : Delivery f l r s y) :
    y.2.store = s.store := by
  cases h <;> assumption

/-! ## Entries and what they were fetched for -/

/-- **An entry that was fetched**: the request has its key, the forwarder
makes `out` of the request, and the entry is what a backend has answered to
`out`. -/
structure Fetched (f : Forwarder) (l : Line β) (i : Item) (r out : Request) : Prop where
  key : key? r = some i.1
  sent : f.outgoing? r = some out
  answered : ∃ state a body expires, (l out state).1.2 = some a
    ∧ a.body.read? = some body ∧ i.2 = offered (Forwarder.incoming a) body expires

/-- **A cache of fetched entries**: behind each there is a request that has
come, and one that the backend has met. -/
def FetchedAll (f : Forwarder) (l : Line β) (past : List Arrival)
    (s : Scene (β × List Request)) : Prop :=
  ∀ i ∈ s.store.items, ∃ a ∈ past, ∃ out ∈ s.backend.2, Fetched f l i a.request out

section Run

variable {f : Forwarder} {l : Line β} {past : List Arrival}

/-- What was fetched stays fetched. -/
theorem FetchedAll.mono {s t : Scene (β × List Request)} {more : List Arrival}
    (h : FetchedAll f l past s) (hitems : ∀ i ∈ t.store.items, i ∈ s.store.items)
    (hseen : ∀ out ∈ s.backend.2, out ∈ t.backend.2) :
    FetchedAll f l (past ++ more) t := by
  intro i hi
  obtain ⟨a, ha, out, hout, hfetched⟩ := h i (hitems i hi)
  exact ⟨a, List.mem_append_left more ha, out, hseen out hout, hfetched⟩

/-- The backend forgets nothing that it has met. -/
theorem Delivery.seen {r : Request} {s : Scene (β × List Request)}
    {y : Except Interrupt Response × Scene (β × List Request)}
    (h : Delivery f (noting l) r s y) : ∀ out ∈ s.backend.2, out ∈ y.2.backend.2 := by
  intro out hout
  cases h with
  | refused _ _ hbackend =>
    rw [hbackend]
    exact hout
  | late _ _ hbackend | failed _ _ hbackend | answered _ _ _ hbackend =>
    rw [hbackend]
    exact List.mem_append_left _ hout

/-- **One request keeps it so**, whatever it comes to at the cache. -/
theorem FetchedAll.step (files : Files.Disk) (choose : Chooser) {r : Arrival}
    {s : Scene (β × List Request)} {y : Except Interrupt Response × Scene (β × List Request)}
    (h : FetchedAll f l past s)
    (hc : Course choose (f.handle (world files choose) (dial (noting l))) r.request s y) :
    FetchedAll f l (past ++ [r]) y.2 := by
  have hdelivery (u : Scene (β × List Request)) :
      Delivery f (noting l) r.request u
        (f.handle (world files choose) (dial (noting l)) r.request u) :=
    handle_delivery files choose f (noting l) r.request u
  -- what is handed on leaves no entry that was not there
  have hon {u t : Scene (β × List Request)} {x : Except Interrupt Response}
      (hon : HandedOn r.request s u)
      (hnext : f.handle (world files choose) (dial (noting l)) r.request u = (x, t)) :
      (∀ i ∈ t.store.items, i ∈ s.store.items)
        ∧ ∀ out ∈ s.backend.2, out ∈ t.backend.2 := by
    have hd := hdelivery u
    rw [hnext] at hd
    refine ⟨fun i hi => ?_, fun out hout => ?_⟩
    · rw [show t.store = u.store from hd.store_eq] at hi
      exact hon.shrinks.mem hi
    · exact hd.seen out (hon.backend ▸ hout)
  cases hc with
  | hit => exact h.mono (fun _ => id) (fun _ => id)
  | interrupted hu hnext | bypassed _ hu hnext | passed _ hu hnext
  | unbuffered _ hu hnext | overflowed _ hu hnext =>
    obtain ⟨hitems, hseen⟩ := hon hu hnext
    exact h.mono hitems hseen
  | @kept u t a key seconds body expires hkey hu hnext hlife hread hlater =>
    obtain ⟨hitems, hseen⟩ := hon hu hnext
    have hall : FetchedAll f l (past ++ [r]) t := h.mono hitems hseen
    intro i hi
    rcases Store.mem_insert choose t.clock hi with rfl | hold
    · -- only an answer of the backend has a lifetime
      have hstatus : a.status = Status.ok := (lifetime?_eq_some_iff.mp hlife).1
      have hd := hdelivery u
      rw [hnext] at hd
      obtain ⟨out, b, hout, hanswer, rfl, hbackend⟩ := hd.answered_of_status hstatus
      refine ⟨r, List.mem_append_right past List.mem_cons_self, out, ?_, hkey, hout,
        u.backend.1, b, body, expires, hanswer, (readWithin?_eq_some_iff.mp hread).1, rfl⟩
      show out ∈ t.backend.2
      rw [hbackend]
      exact List.mem_append_right u.backend.2 List.mem_cons_self
    · exact hall i hold

end Run

/-! ## The host that a backend is asked for -/

/-- A cache in front of a forwarder, and what has come to it so far. -/
def fetchAll (f : Forwarder) (l : Line β) (files : Files.Disk) (choose : Chooser)
    (past : List Arrival) (s : Scene (β × List Request)) : Scene (β × List Request) :=
  (runAll (caching (world files choose)
    (f.handle (world files choose) (dial (noting l)))) past s).2

/-- **Every run of requests leaves fetched entries only.** -/
theorem fetchedAll_run (f : Forwarder) (l : Line β) (files : Files.Disk)
    (choose : Chooser) (past : List Arrival) (store : Store) (state : β)
    (hempty : store.items = []) :
    FetchedAll f l past (fetchAll f l files choose past (.start store (state, []))) := by
  have hstart : FetchedAll f l [] (Scene.start store (state, [])) := by
    intro i hi
    rw [show (Scene.start store (state, ([] : List Request))).store.items = [] from hempty]
      at hi
    cases hi
  have hstep (past : List Arrival) (a : Arrival) (s : Scene (β × List Request))
      (h : FetchedAll f l past s) :
      FetchedAll f l (past ++ [a]) (caching (world files choose)
        (f.handle (world files choose) (dial (noting l))) a.request (a.enter s)).2 :=
    FetchedAll.step (s := a.enter s) files choose h (caching_course files choose _ _ _)
  exact runAll_induction hstep past [] hstart

end Gatehouse.Forward

namespace Gatehouse

open Http Cache Chain Forward Exchange

variable {β : Type}

/-- **The host of a request, from the client to the backend and into the
cache.**

A backend that a server asks meets the `Host` values that the client has sent,
all of them and in their order, unless a readable value of `Connection` names
`Host`; then it meets none. This is so whatever other headers there are and
whatever layers the request has passed, and of the forwarder alone, which asks
once about every request that can be addressed.

After any run of requests through a cache in front of the forwarder, each
entry is what the backend has answered to a request that it has met, made of
one that has come with the key of the entry. The key begins with the host
that the cache takes; the backend was asked for that host exactly if it stands
in a `Host` header that can be read, and that header was not declared to end
with the connection. -/
theorem Server.serve_host (v : Server) (files : Files.Disk) (choose : Chooser)
    (l : Line β) (capacity maxItemSize : Nat) (state : β) (past : List Arrival) :
    (∀ r (s : Scene β), ∀ out ∈ meetings (v.serve (world files choose) (dial (noting l))) r s,
      out.headers.values "host"
        = if "host" ∈ declaredHops r.headers then [] else r.headers.values "host")
    ∧ (∀ r (s : Scene β),
      let seen := meetings (v.forwarder.handle (world files choose) (dial (noting l))) r s
      seen = (if Forwarder.hasPath r then v.forwarder.outgoing? r else none).toList
        ∧ ∀ out ∈ seen, out.headers.values "host"
          = if "host" ∈ declaredHops r.headers then [] else r.headers.values "host")
    ∧ (let after := fetchAll v.forwarder l files choose past
        (.start (.empty capacity maxItemSize) (state, []))
      ∀ i ∈ after.store.items, ∃ a ∈ past, ∃ out ∈ after.backend.2,
        Fetched v.forwarder l i a.request out
          ∧ i.1 = hostOf a.request ++ a.request.uri.targetOrRoot
          ∧ (out.headers.text? "host" = some (hostOf a.request)
            ↔ (a.request.headers.text? "host").isSome = true
              ∧ "host" ∉ declaredHops a.request.headers)) := by
  have hmeets (r : Request) (s : Scene β) :
      meetings (v.forwarder.handle (world files choose) (dial (noting l))) r s
        = (if Forwarder.hasPath r then v.forwarder.outgoing? r else none).toList :=
    ((passes_handle files choose v.forwarder _).meetings_eq (notes_dial l) r s).resolve_right
      And.left
  refine ⟨fun r s out hseen => ?_, fun r s => ⟨hmeets r s, fun out hseen => ?_⟩,
    fun i hi => ?_⟩
  · obtain ⟨q, honward, hout⟩ := Server.outgoing_of_mem_meetings hseen
    obtain ⟨r', hinward, -, hothers⟩ := Plan.exists_inward_of_onward honward
    -- no layer on the way writes a host
    have hhost : q.headers.values "host" = r.headers.values "host" := by
      rw [Plan.values_of_inward hinward (by decide) (by decide), hothers _ (by decide)]
    rw [values_host_of_outgoing hout, declaredHops_onward honward, hhost]
  · rw [hmeets, Option.mem_toList] at hseen
    split at hseen
    · exact values_host_of_outgoing hseen
    · cases hseen
  · obtain ⟨a, ha, out, hout, hfetched⟩ :=
      fetchedAll_run v.forwarder l files choose past (.empty capacity maxItemSize) state rfl i hi
    refine ⟨a, ha, out, hout, hfetched, ?_, text?_host_eq_hostOf_iff hfetched.sent⟩
    exact (key?_eq_some_iff.mp hfetched.key).2.2.symm

/-- A backend with a page for each host, and one for requests without. Any of
them may be stored for a minute. -/
def sites : Line Unit := fun r _ =>
  let page := (r.headers.get? "host").getD (Bytes.ofString "default site")
  ((0, some ⟨.ok, ⟨[⟨"cache-control", Bytes.ofString "public, max-age=60"⟩]⟩,
    Body.ofBytes page⟩), ())

/-- A visit to a host that the client declares to end with the connection. -/
def hostless : Request :=
  { asking "a.example" "/page" with
    headers := ⟨[⟨"host", Bytes.ofString "a.example"⟩,
      ⟨"connection", Bytes.ofString "host"⟩]⟩ }

/-- The scene that such a visit leaves. -/
def afterHostless : Scene (Unit × List Request) :=
  fetchAll germanGate.forwarder sites .empty (fun _ => 0) [⟨hostless, ⟨0⟩, 0⟩]
    (.start (.empty 1000 100) ((), []))

/-- **The default site under the name of another**: the request has a host,
the backend meets it without one, and the page that it answers with is filed
under the host, where the next visitor gets it. -/
theorem Server.host_hidden :
    hostless.headers.values "host" = [Bytes.ofString "a.example"]
      ∧ afterHostless.backend.2.map (·.headers.values "host") = [[]]
      ∧ afterHostless.store.items.map (fun i => (i.1, i.2.body))
        = [("a.example/page", Bytes.ofString "default site")]
      ∧ ((caching (world .empty fun _ => 0)
          (germanGate.forwarder.handle (world .empty fun _ => 0) (dial (noting sites)))
          (asking "a.example" "/page") afterHostless).1.toOption.map fun a =>
            (a.headers.values cacheHeader, a.body))
        = some ([Bytes.ofString "hit"], Body.ofString "default site") := by
  refine ⟨by decide +kernel, by decide +kernel, by decide +kernel, by decide +kernel⟩

end Gatehouse
