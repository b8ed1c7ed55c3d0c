import Gatehouse.Proofs.Chain.Provenance
import Gatehouse.Proofs.Forward.Account
import Gatehouse.Proofs.Forward.Frame
import Gatehouse.Proofs.Forward.Host

/-!
# What is left of a backend's response

A response has headers about the connection that it came over. They end with it:
if one of them were passed on it would speak about another connection, and if it
were stored it would speak about those of other clients too. Which headers these
are is for the response to say, because `Connection` may name any header there
is. The names are read off before anything is taken out, and then all of it goes
at once, `Connection` included.

That nothing of the kind is left, and nothing else is missing, is `Stripped`. A
response without the nine names that always end with a connection declares
nothing any more, so that taking out once is enough (`withoutHops_eq_self_iff`).
Behind the forwarder nothing adds such a header. What a cache stores is as the
forwarder has left it, and so is what it replays, but for the header in which it
says so.
-/

namespace Gatehouse.Http.Headers

/-- Erasing changes nothing exactly if there is nothing of the names. -/
theorem eraseAll_eq_self_iff {h : Headers} {names : List String} :
    h.eraseAll names = h ↔ ∀ name ∈ names, h.values name = [] := by
  constructor
  · intro hsame name hname
    rw [← hsame, values_eraseAll, if_pos hname]
  · intro hnil
    have hothers : ∀ f ∈ h.fields, f.name ∉ names := by
      intro f hf hname
      have hthere : h.contains f.name = true :=
        List.any_eq_true.mpr ⟨f, hf, decide_eq_true rfl⟩
      exact contains_eq_true_iff.mp hthere (hnil _ hname)
    rw [eraseAll_eq, List.filter_eq_self.mpr fun f hf => decide_eq_true (hothers f hf)]

end Gatehouse.Http.Headers

namespace Gatehouse.Forward

open Http Cache Chain Exchange

variable {β : Type}

/-! ## Taking out -/

section Headers

variable {h h' : Headers} {aside : List String}

/-- Where there is no `Connection`, nothing is declared. -/
theorem declaredHops_of_values_eq_nil (hnil : h.values "connection" = []) :
    declaredHops h = [] := by
  unfold declaredHops
  rw [hnil]
  rfl

/-- **There is nothing to take out** exactly if there is nothing of the nine
names. -/
theorem withoutHops_eq_self_iff :
    withoutHops h = h ↔ ∀ name ∈ hopNames, h.values name = [] := by
  unfold withoutHops
  rw [Headers.eraseAll_eq_self_iff]
  constructor
  · exact fun hnil name hname => hnil name (List.mem_append_left _ hname)
  · intro hnil name hname
    rw [declaredHops_of_values_eq_nil (hnil _ (by decide)), List.append_nil] at hname
    exact hnil name hname

/-- **Headers without those that end with the connection.** Of these nothing is
left, of all others every value, in order, and to take out once more changes
nothing. Some names may be left aside. -/
structure Stripped (aside : List String) (h h' : Headers) : Prop where
  gone : ∀ name ∉ aside, EndsWithConnection h name → h'.values name = []
  kept : ∀ name ∉ aside, ¬ EndsWithConnection h name → h'.values name = h.values name
  settled : withoutHops h' = h'

/-- **Taking out leaves such headers.** -/
theorem stripped_withoutHops (h : Headers) : Stripped [] h (withoutHops h) := by
  refine ⟨fun name _ hhop => ?_, fun name _ hhop => ?_,
    withoutHops_eq_self_iff.mpr fun name hname => ?_⟩
  · rw [values_withoutHops, if_pos (mem_hops_iff.mpr hhop)]
  · rw [values_withoutHops, if_neg fun hmem => hhop (mem_hops_iff.mp hmem)]
  · rw [values_withoutHops, if_pos (List.mem_append_left _ hname)]

/-- A header that speaks about no connection can be set. -/
theorem Stripped.insert (hs : Stripped aside h h') {name : String} (value : Bytes)
    (hname : name ∉ hopNames) : Stripped (name :: aside) h (h'.insert name value) := by
  have hsame (other : String) (hother : name ≠ other) :
      (h'.insert name value).values other = h'.values other := by
    rw [Headers.values_insert, if_neg hother]
  refine ⟨fun other hother hhop => ?_, fun other hother hhop => ?_,
    withoutHops_eq_self_iff.mpr fun hop hhop => ?_⟩
  · rw [List.mem_cons, not_or] at hother
    rw [hsame other (Ne.symm hother.1), hs.gone other hother.2 hhop]
  · rw [List.mem_cons, not_or] at hother
    rw [hsame other (Ne.symm hother.1), hs.kept other hother.2 hhop]
  · rw [hsame hop (fun heq => hname (heq ▸ hhop)),
      withoutHops_eq_self_iff.mp hs.settled hop hhop]

end Headers

/-! ## The forwarder -/

/-- A line answers a request for which there is time. -/
theorem dial_of_inTime (l : Line β) (out : Request) (s : Scene β)
    (htime : s.Allows (l out s.backend).1.1) :
    ∃ t, dial l out s = (.ok (l out s.backend).1.2, t) := by
  obtain ⟨t, hslept⟩ : ∃ t, sleep (l out s.backend).1.1
      { s with backend := (l out s.backend).2 } = (.ok (), t) := by
    have hallows : Scene.Allows { s with backend := (l out s.backend).2 }
        (l out s.backend).1.1 := htime
    rw [sleep_apply, if_pos hallows]
    exact ⟨_, rfl⟩
  refine ⟨t, ?_⟩
  rw [dial_apply, bind_apply_ok hslept]
  rfl

/-- **The backend's response comes back** if there is time for it. -/
theorem handle_of_answer (files : Files.Disk) (choose : Chooser) {f : Forwarder}
    {l : Line β} {r out : Request} {s : Scene β} {b : Response}
    (hpath : Forwarder.hasPath r = true) (hout : f.outgoing? r = some out)
    (hanswer : (l out s.backend).1.2 = some b)
    (htime : s.Allows (l out s.backend).1.1) :
    ∃ t, f.handle (world files choose) (dial l) r s = (.ok (Forwarder.incoming b), t) := by
  obtain ⟨t, hdial⟩ := dial_of_inTime l out
    { s with log := .proxying out.method.name out.uri.toText :: s.log } htime
  refine ⟨t, ?_⟩
  unfold Forwarder.handle
  rw [if_pos hpath]
  unfold Forwarder.forward
  simp only [hout]
  rw [bind_apply_ok (report_apply files choose _ s), bind_apply_ok hdial]
  simp only [hanswer]
  rfl

/-! ## The cache -/

/-- **A response that was fetched for a key**: the backend has given it to a
request that it has met, and that was made of one that has come with this key. -/
def FetchedFor (f : Forwarder) (l : Line β) (past : List Arrival) (met : List Request)
    (key : String) (b : Response) : Prop :=
  ∃ a ∈ past, key? a.request = some key ∧ ∃ out ∈ met,
    f.outgoing? a.request = some out ∧ ∃ state, (l out state).1.2 = some b

/-- **What is stored has been stripped**: every entry is a response of the
backend with its whole body, without what ends with the connection. -/
theorem FetchedAll.stripped {f : Forwarder} {l : Line β} {past : List Arrival}
    {s : Scene (β × List Request)} (h : FetchedAll f l past s) {i : Item}
    (hi : i ∈ s.store.items) :
    ∃ b, FetchedFor f l past s.backend.2 i.1 b ∧ i.2.status = b.status
      ∧ b.body.read? = some i.2.body ∧ Stripped [] b.headers i.2.headers := by
  obtain ⟨a, ha, out, hmet, hkey, hout, state, b, body, expires, hanswer, hread, hentry⟩ :=
    h i hi
  rw [hentry]
  exact ⟨b, ⟨a, ha, hkey, out, hmet, hout, state, hanswer⟩, rfl, hread,
    stripped_withoutHops b.headers⟩

/-- **What comes back of a response of the backend**, from the forwarder, into a
store and out of it again.

If the backend answers in time a request that the forwarder can address to it,
the forwarder answers with the same status and the same body. Nothing is left of
the nine names that always end with a connection and of those that a readable
value of `Connection` names, in whatever case and with whatever blanks. All
values of all other names are there, in their order, and to take out once more
what ends with a connection changes nothing.

After any run of requests through a cache in front of the forwarder, this holds
of every entry, whose body is the whole body of a response that was fetched for
its key. It also holds of every answer that says it is a hit, for any request that
comes next, apart from the header that says so. -/
theorem Forwarder.handle_stripped (f : Forwarder) (l : Line β) (files : Files.Disk)
    (choose : Chooser) (capacity maxItemSize : Nat) (state : β) (past : List Arrival) :
    (∀ r (s : Scene β) out b, Forwarder.hasPath r = true → f.outgoing? r = some out →
      (l out s.backend).1.2 = some b →
      s.Allows (l out s.backend).1.1 →
      ∃ a t, f.handle (world files choose) (dial l) r s = (.ok a, t)
        ∧ a.status = b.status ∧ a.body = b.body ∧ Stripped [] b.headers a.headers)
    ∧ (let after := fetchAll f l files choose past
        (.start (.empty capacity maxItemSize) (state, []))
      (∀ i ∈ after.store.items, ∃ b, FetchedFor f l past after.backend.2 i.1 b
        ∧ i.2.status = b.status ∧ b.body.read? = some i.2.body
        ∧ Stripped [] b.headers i.2.headers)
      ∧ ∀ (next : Arrival) a,
        (caching (world files choose) (f.handle (world files choose) (dial (noting l)))
          next.request (next.enter after)).1 = .ok a →
        a.headers.values cacheHeader = [Bytes.ofString "hit"] →
        ∃ key b body, key? next.request = some key
          ∧ FetchedFor f l past after.backend.2 key b ∧ a.status = b.status
          ∧ b.body.read? = some body ∧ a.body = Body.ofBytes body
          ∧ Stripped [cacheHeader] b.headers a.headers) := by
  refine ⟨fun r s out b hpath hout hanswer htime => ?_, ?_⟩
  · obtain ⟨t, ht⟩ := handle_of_answer files choose hpath hout hanswer htime
    exact ⟨_, t, ht, rfl, rfl, stripped_withoutHops b.headers⟩
  · intro after
    have hfetched : FetchedAll f l past after :=
      fetchedAll_run f l files choose past (.empty capacity maxItemSize) state rfl
    refine ⟨fun i hi => hfetched.stripped hi, fun next a ha hhit => ?_⟩
    have hcourse := caching_course files choose
      (f.handle (world files choose) (dial (noting l))) next.request (next.enter after)
    rcases hrun : caching (world files choose)
      (f.handle (world files choose) (dial (noting l))) next.request (next.enter after)
      with ⟨ending, t⟩
    rw [hrun] at ha hcourse
    cases ha
    obtain ⟨key, e, hkey, hget, rfl, -, -⟩ := hcourse.hit_of_values hhit
    obtain ⟨hfind, -⟩ := Store.get_eq_some_iff.mp hget
    obtain ⟨b, hfor, hstatus, hread, hstripped⟩ :=
      hfetched.stripped (Store.mem_of_find? hfind)
    exact ⟨key, b, e.body, hkey, hfor, hstatus, hread, rfl,
      hstripped.insert _ (by decide)⟩

/-- A page for a minute, with two links, from a backend that is about to close
the connection and has something more to say about that. -/
def farewell : Response :=
  ⟨.ok, ⟨[⟨"link", Bytes.ofString "</a>"⟩, ⟨"connection", Bytes.ofString "close,\t X-Token"⟩,
    ⟨"x-token", Bytes.ofString "1"⟩, ⟨"cache-control", Bytes.ofString "public, max-age=60"⟩,
    ⟨"keep-alive", Bytes.ofString "timeout=5"⟩, ⟨"link", Bytes.ofString "</b>"⟩]⟩,
    Body.ofString "page"⟩

/-- A line on which every request gets this page. -/
def closing : Line Unit := fun _ _ => ((0, some farewell), ())

/-- **Nobody hears of the closed connection**: neither the client that the page
is fetched for nor the next one, who gets it from the store. Both get the two
links. -/
theorem Forwarder.handle_stripped_closing :
    let forwarder := germanGate.forwarder
    let after := fetchAll forwarder closing .empty (fun _ => 0) [pageAfter 0]
      (.start (.empty 1000 100) ((), []))
    (∃ a t, forwarder.handle (world .empty fun _ => 0) (dial closing) (pageAfter 0).request
        (.start (.empty 1000 100) ()) = (.ok a, t)
      ∧ a.headers.values "connection" = [] ∧ a.headers.values "x-token" = []
      ∧ a.headers.values "link" = [Bytes.ofString "</a>", Bytes.ofString "</b>"])
    ∧ ∃ a, (caching (world .empty fun _ => 0)
        (forwarder.handle (world .empty fun _ => 0) (dial (noting closing)))
        (pageAfter 5).request ((pageAfter 5).enter after)).1 = .ok a
      ∧ a.headers.values cacheHeader = [Bytes.ofString "hit"]
      ∧ a.headers.values "connection" = [] ∧ a.headers.values "x-token" = []
      ∧ a.headers.values "link" = [Bytes.ofString "</a>", Bytes.ofString "</b>"] := by
  intro forwarder after
  obtain ⟨hreturned, hkept⟩ := Forwarder.handle_stripped forwarder closing .empty
    (fun _ => 0) 1000 100 () [pageAfter 0]
  have htoken : NamedHop farewell.headers "x-token" :=
    mem_declaredHops_iff.mp (by decide +kernel)
  have hlink : ¬ EndsWithConnection farewell.headers "link" := by
    rw [← mem_hops_iff]
    decide +kernel
  have hlinks : farewell.headers.values "link"
      = [Bytes.ofString "</a>", Bytes.ofString "</b>"] := by
    decide +kernel
  refine ⟨?_, ?_⟩
  · obtain ⟨out, hout⟩ : ∃ out, forwarder.outgoing? (pageAfter 0).request = some out :=
      Option.isSome_iff_exists.mp (by decide +kernel)
    obtain ⟨a, t, ha, -, -, hs⟩ := hreturned (pageAfter 0).request
      (.start (.empty 1000 100) ()) out farewell (by decide +kernel) hout rfl
      (allows_of_left rfl _)
    exact ⟨a, t, ha, hs.gone _ (by decide) (.inl (by decide)),
      hs.gone _ (by decide) (.inr htoken), (hs.kept _ (by decide) hlink).trans hlinks⟩
  · obtain ⟨a, ha, hhit⟩ : ∃ a, (caching (world .empty fun _ => 0)
        (forwarder.handle (world .empty fun _ => 0) (dial (noting closing)))
        (pageAfter 5).request ((pageAfter 5).enter after)).1 = .ok a
        ∧ a.headers.values cacheHeader = [Bytes.ofString "hit"] :=
      ⟨withOutcome ⟨.ok, withoutHops farewell.headers, Body.ofString "page"⟩ .hit,
        by decide +kernel, by decide +kernel⟩
    obtain ⟨_, b, _, -, ⟨_, _, _, _, _, _, _, hb⟩, -, -, -, hs⟩ :=
      hkept.2 (pageAfter 5) a ha hhit
    cases hb
    exact ⟨a, ha, hhit, hs.gone _ (by decide) (.inl (by decide)),
      hs.gone _ (by decide) (.inr htoken), (hs.kept _ (by decide) hlink).trans hlinks⟩

end Gatehouse.Forward
