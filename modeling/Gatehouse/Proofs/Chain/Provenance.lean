import Gatehouse.Proofs.Cache.Rule
import Gatehouse.Proofs.Chain.Caching
import Gatehouse.Proofs.Chain.Source

/-!
# Where an answer from the store comes from

A cache answers without asking, and an answer that was given to somebody
else has to be right for the one who gets it. This module traces every such
answer back: behind a hit there is a dialogue of an earlier request that
had the same key and was as free of credentials, its response was allowed
to be stored and is not over yet, and no later response has taken its
place.

What a dialogue leaves in a store is a function of the dialogue (`item?`).
The invariant is that every entry of the store is what its last dialogue
has left (`Remembers`), and a single request changes store and dialogues in
one of three ways (`Recorded`), each of which keeps it.
-/

namespace Gatehouse.Chain

open Http Cache Exchange

variable {β : Type} {capacity maxItemSize : Nat}

/-! ## What a dialogue leaves in a store -/

namespace Dialogue

/-- **The item that a dialogue leaves** in a store with these limits, if it
leaves one. -/
def item? (capacity maxItemSize : Nat) (d : Dialogue) : Option Item := do
  let key ← key? d.request
  let seconds ← lifetime? d.response maxItemSize
  let body ← d.response.body.readWithin? maxItemSize
  let expires ← d.time.later? seconds
  guard (body.length ≤ capacity)
  return (key, offered d.response body expires)

variable {d : Dialogue} {key : String} {e : Entry}

/-- A dialogue leaves an item if its request has a key, its response may be
stored and can be had, and the store has room for it at all. -/
theorem item?_eq_some_iff :
    d.item? capacity maxItemSize = some (key, e) ↔ key? d.request = some key
      ∧ ∃ seconds, lifetime? d.response maxItemSize = some seconds
      ∧ ∃ body, d.response.body.readWithin? maxItemSize = some body
      ∧ ∃ expires, d.time.later? seconds = some expires
      ∧ body.length ≤ capacity ∧ offered d.response body expires = e := by
  unfold item?
  simp only [guard, Option.pure_def, failure, Option.bind_eq_bind,
    Option.bind_eq_some_iff, ite_eq_left_iff, Nat.not_le, reduceCtorEq, imp_false,
    Nat.not_lt, Option.some.injEq, Prod.mk.injEq, exists_const]
  constructor
  · rintro ⟨k, hkey, seconds, hlife, body, hread, expires, hlater, hfits, rfl, he⟩
    exact ⟨hkey, seconds, hlife, body, hread, expires, hlater, hfits, he⟩
  · rintro ⟨hkey, seconds, hlife, body, hread, expires, hlater, hfits, he⟩
    exact ⟨key, hkey, seconds, hlife, body, hread, expires, hlater, hfits, rfl, he⟩

/-- **A dialogue that an answer is taken from**: what it takes for the
response of the dialogue to be an answer to the request `q`, at an instant
`now`, from a store that keeps bodies up to a size. -/
structure Supplies (d : Dialogue) (maxItemSize : Nat) (q : Request)
    (now : Instant) (answer : Response) : Prop where
  /-- The request of the dialogue was one for the cache. -/
  method : d.request.method = Method.get
  anonymous : d.request.headers.contains "authorization" = false
  /-- It asked for the same. -/
  key : key? d.request = key? q
  /-- Its response could be given to everybody. -/
  status : d.response.status = Status.ok
  cookieless : d.response.headers.contains "set-cookie" = false
  /-- It was fresh when it came, and still is. -/
  fresh : ∃ seconds, lifetime? d.response maxItemSize = some seconds
    ∧ now.nanos < d.time.nanos + seconds * 1000000000
  /-- It was had completely, and is given as it was. -/
  complete : ∃ body, d.response.body.read? = some body
    ∧ body.length ≤ maxItemSize
    ∧ answer = ⟨d.response.status,
        d.response.headers.insert cacheHeader (Bytes.ofString "hit"),
        Body.ofBytes body⟩

end Dialogue

/-! ## One request -/

/-- **What one request does** to a store and to the dialogues of the source
behind it. -/
inductive Recorded (capacity maxItemSize : Nat) (r : Request) (store : Store)
    (ds : List Dialogue) : Store → List Dialogue → Prop
  /-- The source has not answered. -/
  | silent {after : Store} (hshrinks : store.Shrinks after) :
      Recorded capacity maxItemSize r store ds after ds
  /-- The source has answered, and nothing is stored. -/
  | lost {after : Store} {d : Dialogue} (hrequest : d.request = r)
      (hitem : d.item? capacity maxItemSize = none)
      (hshrinks : store.Shrinks after) :
      Recorded capacity maxItemSize r store ds after (ds ++ [d])
  /-- The source has answered, and that is stored in place of whatever was
  there. -/
  | stored {after : Store} {d : Dialogue} {i : Item} (hrequest : d.request = r)
      (hitem : d.item? capacity maxItemSize = some i)
      (hcapacity : after.capacity = store.capacity)
      (hmaxItemSize : after.maxItemSize = store.maxItemSize)
      (hfind : after.find? i.1 = some i.2)
      (hmem : ∀ j ∈ after.items, j = i ∨ j ∈ store.items ∧ j.1 ≠ i.1) :
      Recorded capacity maxItemSize r store ds after (ds ++ [d])

section Step

variable {o : Source β} {choose : Chooser} {r : Request}
variable {s u t : Scene (β × List Dialogue)} {a : Response}

/-- The source leaves the store as the request has found it. -/
theorem HandedOn.shrinks_recalling {x : Except Interrupt Response}
    (hon : HandedOn r s u) (hnext : o.recalling r u = (x, t)) :
    s.store.Shrinks t.store := by
  have hstore := o.store_recalling r u
  rw [hnext] at hstore
  rw [show t.store = u.store from hstore]
  exact hon.shrinks

/-- An answer that leaves no item is lost. -/
theorem HandedOn.recorded_lost (hon : HandedOn r s u)
    (hnext : o.recalling r u = (.ok a, t))
    (hitem : Dialogue.item? capacity maxItemSize ⟨r, a, t.clock⟩ = none) :
    Recorded capacity maxItemSize r s.store s.backend.2 t.store t.backend.2 := by
  rw [Source.dialogues_of_ok hnext, hon.backend]
  exact .lost rfl hitem (hon.shrinks_recalling hnext)

/-- An answer whose item is inserted is stored. -/
theorem HandedOn.recorded_stored (hon : HandedOn r s u)
    (hnext : o.recalling r u = (.ok a, t)) {key : String} {e : Entry}
    (hitem : Dialogue.item? capacity maxItemSize ⟨r, a, t.clock⟩ = some (key, e))
    (hfits : t.store.Fits e) :
    Recorded capacity maxItemSize r s.store s.backend.2
      (t.store.insert choose t.clock key e).2 t.backend.2 := by
  have hshrinks := hon.shrinks_recalling hnext
  rw [Source.dialogues_of_ok hnext, hon.backend]
  refine .stored rfl hitem ?_ ?_ ?_ ?_
  · rw [Store.capacity_insert, hshrinks.capacity]
  · rw [Store.maxItemSize_insert, hshrinks.maxItemSize]
  · exact Store.find?_insert_of_fits choose t.clock hfits
  · intro j hj
    rcases Store.mem_insert_of_fits choose t.clock hfits hj with hnew | ⟨hold, hne⟩
    · exact Or.inl hnew
    · exact Or.inr ⟨hshrinks.mem hold, hne⟩

/-- **Whatever course a request takes**, that is what it does. -/
theorem Course.recorded {y : Except Interrupt Response × Scene (β × List Dialogue)}
    (hc : Course choose o.recalling r s y) (hcapacity : s.store.capacity = capacity)
    (hmaxItemSize : s.store.maxItemSize = maxItemSize) :
    Recorded capacity maxItemSize r s.store s.backend.2 y.2.store y.2.backend.2 := by
  -- the limits that the layer reads after the answer are those from before
  have hlimit {u t : Scene (β × List Dialogue)} {x : Except Interrupt Response}
      (hon : HandedOn r s u) (hnext : o.recalling r u = (x, t)) :
      t.store.capacity = capacity ∧ t.store.maxItemSize = maxItemSize :=
    ⟨(hon.shrinks_recalling hnext).capacity.trans hcapacity,
      (hon.shrinks_recalling hnext).maxItemSize.trans hmaxItemSize⟩
  cases hc with
  | hit hkey hget => exact .silent (.refl _)
  | interrupted hon hnext =>
    dsimp only
    rw [Source.dialogues_of_error hnext, hon.backend]
    exact .silent (hon.shrinks_recalling hnext)
  | bypassed hkey hon hnext =>
    exact hon.recorded_lost hnext (by simp [Dialogue.item?, hkey])
  | passed hkey hon hnext hlife =>
    rw [(hlimit hon hnext).2] at hlife
    exact hon.recorded_lost hnext (by simp [Dialogue.item?, hlife])
  | unbuffered hkey hon hnext hlife hread =>
    rw [(hlimit hon hnext).2] at hread
    dsimp only
    exact hon.recorded_lost hnext (by simp [Dialogue.item?, hread])
  | overflowed hkey hon hnext hlife hread hlater =>
    rw [(hlimit hon hnext).2] at hlife
    exact hon.recorded_lost hnext (by simp [Dialogue.item?, hlife, hlater])
  | @kept u t a key seconds body expires hkey hon hnext hlife hread hlater =>
    obtain ⟨hcap, hmax⟩ := hlimit hon hnext
    have hsmall := (readWithin?_eq_some_iff.mp hread).2
    rw [hmax] at hlife hread
    dsimp only
    -- a body within the limit of one item can still be too large for the store
    by_cases hfits : t.store.Fits (offered a body expires)
    · refine hon.recorded_stored hnext ?_ hfits
      exact Dialogue.item?_eq_some_iff.mpr ⟨hkey, seconds, hlife, body, hread,
        expires, hlater, hcap ▸ hfits.2, rfl⟩
    · have hlarge : ¬ body.length ≤ capacity := by
        intro h
        exact hfits ⟨hsmall, hcap ▸ h⟩
      rw [Store.insert_of_not_fits choose t.clock hfits]
      exact hon.recorded_lost hnext
        (by simp [Dialogue.item?, hlife, hread, hlarge, guard, failure])

end Step

/-! ## The invariant -/

/-- **The item that the last dialogue under its key has left.** -/
def Supplied (capacity maxItemSize : Nat) (ds : List Dialogue) (i : Item) : Prop :=
  ∃ before d after, ds = before ++ d :: after
    ∧ d.item? capacity maxItemSize = some i
    ∧ ∀ d' ∈ after, ∀ e, d'.item? capacity maxItemSize ≠ some (i.1, e)

/-- **A store that remembers**: its entries are what the last dialogues have
left, and the dialogues are of requests that there were. -/
structure Remembers (capacity maxItemSize : Nat) (past : List Request)
    (store : Store) (ds : List Dialogue) : Prop where
  capacity_eq : store.capacity = capacity
  maxItemSize_eq : store.maxItemSize = maxItemSize
  requests : (ds.map (·.request)).Sublist past
  items : ∀ i ∈ store.items, Supplied capacity maxItemSize ds i

namespace Supplied

variable {ds : List Dialogue} {d : Dialogue} {i : Item}

/-- A dialogue under another key, or under none, supplies nothing else. -/
theorem append (h : Supplied capacity maxItemSize ds i)
    (hd : ∀ e, d.item? capacity maxItemSize ≠ some (i.1, e)) :
    Supplied capacity maxItemSize (ds ++ [d]) i := by
  obtain ⟨before, d', after, rfl, hitem, hlast⟩ := h
  refine ⟨before, d', after ++ [d], by simp, hitem, fun d'' hd'' => ?_⟩
  rcases List.mem_append.mp hd'' with hold | hnew
  · exact hlast d'' hold
  · obtain rfl := List.mem_singleton.mp hnew
    exact hd

/-- The latest dialogue supplies what it leaves. -/
theorem last (hd : d.item? capacity maxItemSize = some i) :
    Supplied capacity maxItemSize (ds ++ [d]) i :=
  ⟨ds, d, [], rfl, hd, fun _ h => absurd h List.not_mem_nil⟩

end Supplied

/-- An empty store remembers nothing. -/
theorem Remembers.empty (capacity maxItemSize : Nat) :
    Remembers capacity maxItemSize [] (.empty capacity maxItemSize) [] :=
  ⟨rfl, rfl, .refl _, nofun⟩

/-- **One request keeps the memory.** -/
theorem Remembers.step {r : Request} {past : List Request} {store store' : Store}
    {ds ds' : List Dialogue}
    (h : Remembers capacity maxItemSize past store ds)
    (hr : Recorded capacity maxItemSize r store ds store' ds') :
    Remembers capacity maxItemSize (past ++ [r]) store' ds' := by
  cases hr with
  | silent hshrinks =>
    exact ⟨hshrinks.capacity.trans h.capacity_eq,
      hshrinks.maxItemSize.trans h.maxItemSize_eq,
      h.requests.trans (List.sublist_append_left past [r]),
      fun i hi => h.items i (hshrinks.mem hi)⟩
  | lost hrequest hitem hshrinks =>
    refine ⟨hshrinks.capacity.trans h.capacity_eq,
      hshrinks.maxItemSize.trans h.maxItemSize_eq, ?_, fun i hi => ?_⟩
    · rw [List.map_append, List.map_singleton, hrequest]
      exact h.requests.append_right [r]
    · refine (h.items i (hshrinks.mem hi)).append fun e he => ?_
      rw [hitem] at he
      cases he
  | stored hrequest hitem hcapacity hmaxItemSize hfind hmem =>
    refine ⟨hcapacity.trans h.capacity_eq, hmaxItemSize.trans h.maxItemSize_eq, ?_,
      fun j hj => ?_⟩
    · rw [List.map_append, List.map_singleton, hrequest]
      exact h.requests.append_right [r]
    · rcases hmem j hj with rfl | ⟨hold, hne⟩
      · exact .last hitem
      · refine (h.items j hold).append fun e he => ?_
        -- the new item has another key than the old one
        rw [hitem] at he
        exact hne (congrArg Prod.fst (Option.some.inj he)).symm

/-- **Every run of requests keeps it.** -/
theorem remembers_run (o : Source β) (files : Files.Disk) (choose : Chooser)
    (capacity maxItemSize : Nat) (state : β) (past : List Arrival) :
    let s := (runAll (caching (world files choose) o.recalling) past
      (.start (.empty capacity maxItemSize) (state, []))).2
    Remembers capacity maxItemSize (past.map (·.request)) s.store s.backend.2 := by
  have hstep (past : List Arrival) (a : Arrival) (s : Scene (β × List Dialogue))
      (h : Remembers capacity maxItemSize (past.map (·.request)) s.store s.backend.2) :
      let t := (caching (world files choose) o.recalling a.request (a.enter s)).2
      Remembers capacity maxItemSize ((past ++ [a]).map (·.request)) t.store
        t.backend.2 := by
    have hcourse := caching_course files choose o.recalling a.request (a.enter s)
    rw [List.map_append, List.map_singleton]
    exact h.step (hcourse.recorded h.capacity_eq h.maxItemSize_eq)
  exact runAll_induction hstep past [] (.empty capacity maxItemSize)

/-! ## Answers from the store -/

/-- A fresh entry that a dialogue has left is supplied by the dialogue. -/
theorem Dialogue.supplies_of_item? {d : Dialogue} {q : Request} {now : Instant}
    {key : String} {e : Entry} (hkey : key? q = some key)
    (hitem : d.item? capacity maxItemSize = some (key, e))
    (hfresh : e.isFresh now = true) :
    d.Supplies maxItemSize q now (withOutcome e.toResponse .hit) := by
  obtain ⟨hkey', seconds, hlife, body, hread, expires, hlater, hfits, rfl⟩ :=
    Dialogue.item?_eq_some_iff.mp hitem
  obtain ⟨hmethod, hanonymous, -⟩ := key?_eq_some_iff.mp hkey'
  obtain ⟨hstatus, hcookieless, -⟩ := lifetime?_eq_some_iff.mp hlife
  obtain ⟨hbody, hsmall⟩ := readWithin?_eq_some_iff.mp hread
  have hnow : now.nanos < expires.nanos := of_decide_eq_true hfresh
  rw [Instant.nanos_of_later? hlater] at hnow
  exact ⟨hmethod, hanonymous, hkey'.trans hkey.symm, hstatus, hcookieless,
    ⟨seconds, hlife, hnow⟩, body, hbody, hsmall, rfl⟩

/-- **Behind every hit there is a dialogue** that it is rightly taken from.
For every source and every run of requests: recalling the dialogues changes
no answer, and what the next request does to the store and the dialogues
is recorded. If the answer to it says that it is a hit, then the request is
a `GET` without credentials, the source has not noticed it, and an earlier
request of the run has had a dialogue that supplies the answer. That
dialogue was stored, and no later one under the same key was. -/
theorem caching_hit_supplied (o : Source β) (files : Files.Disk)
    (choose : Chooser) (capacity maxItemSize : Nat) (state : β)
    (past : List Arrival) (a : Arrival) :
    let store := Store.empty capacity maxItemSize
    let h := caching (world files choose) o.recalling
    let s := (runAll h past (.start store (state, []))).2
    let y := h a.request (a.enter s)
    (∀ arrivals, (runAll h arrivals (.start store (state, []))).1
        = (runAll (caching (world files choose) o.answer) arrivals
            (.start store state)).1)
      ∧ Recorded capacity maxItemSize a.request s.store s.backend.2
        y.2.store y.2.backend.2
      ∧ ∀ answer, y.1 = .ok answer →
        answer.headers.values cacheHeader = [Bytes.ofString "hit"] →
        a.request.method = Method.get
        ∧ a.request.headers.contains "authorization" = false
        ∧ y.2.backend = s.backend
        ∧ (s.backend.2.map (·.request)).Sublist (past.map (·.request))
        ∧ ∃ before d after, s.backend.2 = before ++ d :: after
          ∧ d.Supplies maxItemSize a.request a.clock answer
          ∧ d.item? capacity maxItemSize ≠ none
          ∧ ∀ d' ∈ after, key? d'.request = key? a.request →
            d'.item? capacity maxItemSize = none := by
  intro store h s y
  have hmemory := remembers_run o files choose capacity maxItemSize state past
  have hcourse : Course choose o.recalling a.request (a.enter s) y :=
    caching_course files choose o.recalling a.request (a.enter s)
  refine ⟨fun arrivals => ?_, hcourse.recorded hmemory.capacity_eq
    hmemory.maxItemSize_eq, fun answer hanswer hvalues => ?_⟩
  · have hstart : (Scene.start store (state, [])).Alike Source.Beside
        (Scene.start store state) := ⟨rfl, rfl, rfl, rfl, rfl⟩
    exact ((o.agree_recalling.caching files choose).runAll arrivals hstart).1
  · have hy : y = (.ok answer, y.2) := Prod.ext hanswer rfl
    rw [hy] at hcourse
    obtain ⟨key, e, hkey, hget, rfl, -, hbackend⟩ := hcourse.hit_of_values hvalues
    obtain ⟨hmethod, hanonymous, -⟩ := key?_eq_some_iff.mp hkey
    obtain ⟨hfind, hfresh⟩ := Store.get_eq_some_iff.mp hget
    obtain ⟨before, d, after, hds, hitem, hlast⟩ :=
      hmemory.items (key, e) (Store.mem_of_find? hfind)
    refine ⟨hmethod, hanonymous, hbackend, hmemory.requests, before, d, after, hds,
      Dialogue.supplies_of_item? hkey hitem hfresh, ?_, fun d' hd' hsame => ?_⟩
    · rw [hitem]
      exact nofun
    · refine Option.eq_none_iff_forall_ne_some.mpr fun ⟨key', e'⟩ he' => ?_
      have hkey' := (Dialogue.item?_eq_some_iff.mp he').1
      rw [hsame, hkey] at hkey'
      cases hkey'
      exact hlast d' hd' e' he'

/-- A backend whose answers may be stored for a minute, and no two of which
are the same. -/
def ticking : Backend Nat := fun _ n =>
  ((0, ⟨.ok, ⟨[⟨"cache-control", Bytes.ofString "public, max-age=60"⟩]⟩,
    Body.ofBytes [UInt8.ofNat n]⟩), n + 1)

/-- A request for one page, some seconds after the first. -/
def pageAfter (seconds : Nat) : Arrival :=
  ⟨⟨.get, ⟨none, none, some "/page"⟩, Headers.empty, Body.empty, none, none⟩,
    ⟨seconds * 1000000000⟩, seconds * 1000⟩

/-- A cache in front of that backend. -/
def tickingCache : Handler (Exchange (Nat × List Dialogue)) :=
  caching (world .empty fun _ => 0) (Source.ofBackend ticking).recalling

/-- What the first request leaves. -/
def afterFirst : Scene (Nat × List Dialogue) :=
  (runAll tickingCache [pageAfter 0] (.start (.empty 1000 100) (0, []))).2

/-- What the second one gets, which is what the first one got. -/
def firstAgain : Response :=
  ⟨.ok, ⟨[⟨"cache-control", Bytes.ofString "public, max-age=60"⟩,
    ⟨"x-cache", Bytes.ofString "hit"⟩]⟩, Body.ofBytes [0]⟩

theorem caching_hit_supplied_ticking :
    (tickingCache (pageAfter 5).request ((pageAfter 5).enter afterFirst)).1
        = .ok firstAgain
      ∧ firstAgain.headers.values cacheHeader = [Bytes.ofString "hit"]
      ∧ ∃ before d after, afterFirst.backend.2 = before ++ d :: after
        ∧ d.Supplies 100 (pageAfter 5).request ⟨5000000000⟩ firstAgain := by
  have hanswer :
      (tickingCache (pageAfter 5).request ((pageAfter 5).enter afterFirst)).1
        = .ok firstAgain := by cbv
  have hvalues : firstAgain.headers.values cacheHeader = [Bytes.ofString "hit"] := by
    decide +kernel
  obtain ⟨-, -, hhit⟩ := caching_hit_supplied (Source.ofBackend ticking) .empty
    (fun _ => 0) 1000 100 0 [pageAfter 0] (pageAfter 5)
  obtain ⟨-, -, -, -, before, d, after, hds, hsupplies, -⟩ :=
    hhit firstAgain hanswer hvalues
  exact ⟨hanswer, hvalues, before, d, after, hds, hsupplies⟩

end Gatehouse.Chain
