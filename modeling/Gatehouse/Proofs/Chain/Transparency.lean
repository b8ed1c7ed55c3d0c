import Gatehouse.Proofs.Cache.Rule
import Gatehouse.Proofs.Chain.Provenance

/-!
# A cache that is not noticed

A cache changes when a backend is asked, and it should not change what a
client gets. Where the answer to a request with a key is a page, which the
key alone determines (`Serves`), it does not: every client gets the status,
the headers and the body that it would get from the backend, and can tell
the difference by `X-Cache` alone (`Same`).

What carries the proof is that a store has nothing but pages in it, each
under its own key (`Faithful`). What the store gives up, and when, does not
matter then: what is found is right, and what is not found is asked for.
Two kinds of backends are out of reach, and rightly. If a body breaks off,
or has another length than the headers say, then reading it for the store
fails where passing it on would not; and a lifetime that leads past the end
of the clock costs the client its answer.
-/

namespace Gatehouse.Chain

open Http Cache Exchange

variable {β σ : Type}

/-! ## The same answer -/

/-- **The same answer**, up to the header that tells what a cache did. -/
structure Same (a a' : Response) : Prop where
  status : a.status = a'.status
  headers : a.headers.erase cacheHeader = a'.headers.erase cacheHeader
  data : a.body.data = a'.body.data
  complete : a.body.complete = a'.body.complete

namespace Same

variable {a a' a'' : Response}

theorem trans (h : Same a a') (h' : Same a' a'') : Same a a'' :=
  ⟨h.status.trans h'.status, h.headers.trans h'.headers, h.data.trans h'.data,
    h.complete.trans h'.complete⟩

/-- What a cache says about an answer does not count. -/
theorem withOutcome (a : Response) (o : CacheOutcome) :
    Same (Chain.withOutcome a o) a := by
  refine ⟨rfl, ?_, rfl, rfl⟩
  show ((a.headers.erase cacheHeader).append cacheHeader _).erase cacheHeader = _
  simp [Headers.erase, Headers.append]

/-- A complete body can as well be one that was read. -/
theorem ofBytes (h : a.body.complete = true) :
    Same { a with body := Body.ofBytes a.body.data } a :=
  ⟨rfl, rfl, rfl, h.symm⟩

end Same

/-- Two exchanges that both come to the same answer. -/
def SameEnding (x y : Except Interrupt Response) : Prop :=
  ∃ a a', x = .ok a ∧ y = .ok a' ∧ Same a a'

/-! ## Pages -/

/-- The length that a response states, in its first `Content-Length`. -/
def statedLength? (a : Response) : Option Nat :=
  (a.headers.text? "content-length").bind fun t =>
    Decimal.unsigned? Decimal.max64 t.toList

/-- **A backend that serves pages.** Its answer to a request with a key is
the page under the key; other requests it may answer as it likes. Pages do
not break off, and where they state their length, it is that. -/
structure Serves (b : Backend β) (page : String → Response) : Prop where
  answer : ∀ {r key} (state), key? r = some key → (b r state).1.2 = page key
  complete : ∀ key, (page key).body.complete = true
  length : ∀ {key n}, statedLength? (page key) = some n →
    n = (page key).body.data.length

/-- A page announces its length, if it does. -/
theorem Serves.announced {b : Backend β} {page : String → Response}
    (hb : Serves b page) {key : String} {n : Nat}
    (h : announcedLength? (page key) = some n) : n = (page key).body.data.length := by
  unfold announcedLength? at h
  split at h
  · next m hm =>
    cases h
    exact hb.length hm
  · unfold Body.exactSize? at h
    split at h
    · cases h
      rfl
    · cases h

/-- **A request in time**: if its page has a lifetime, then the clock
reaches the end of it. -/
def InTime (page : String → Response) (maxItemSize : Nat) (a : Arrival) : Prop :=
  ∀ key seconds, key? a.request = some key →
    lifetime? (page key) maxItemSize = some seconds → a.clock.later? seconds ≠ none

/-! ## Handing on -/

/-- Without a limit of time, a backend always answers. -/
theorem ask_of_left (b : Backend β) (r : Request) {s : Scene β} (h : s.left = none) :
    ask b r s = (.ok (b r s.backend).1.2, { s with backend := (b r s.backend).2 }) := by
  have hsleep : sleep (b r s.backend).1.1 { s with backend := (b r s.backend).2 }
      = (.ok (), { s with backend := (b r s.backend).2 }) := by
    have hallows : Scene.Allows { s with backend := (b r s.backend).2 }
        (b r s.backend).1.1 := allows_of_left h _
    rw [sleep_apply, if_pos hallows]
    simp only [h, Option.map_none]
  rw [ask_apply, bind_apply_ok hsleep]
  rfl

/-- What comes of a request that is handed on to a backend. -/
theorem HandedOn.answered {b : Backend β} {r : Request} {s u t : Scene β}
    {x : Except Interrupt Response} (hon : HandedOn r s u) (hleft : s.left = none)
    (hnext : ask b r u = (x, t)) :
    x = .ok (b r s.backend).1.2 ∧ t.left = none ∧ t.clock = s.clock
      ∧ s.store.Shrinks t.store ∧ t.backend = (b r s.backend).2 := by
  have hu : u.left = none ∧ u.clock = s.clock := by
    cases hon <;> exact ⟨hleft, rfl⟩
  rw [ask_of_left b r hu.1, hon.backend] at hnext
  cases hnext
  exact ⟨rfl, hu.1, hu.2, hon.shrinks, rfl⟩

/-- What comes back for a key is the page under it. -/
theorem HandedOn.eq_page {b : Backend β} {page : String → Response} {r : Request}
    {s u t : Scene β} {a : Response} {key : String} (hon : HandedOn r s u)
    (hb : Serves b page) (hkey : key? r = some key) (hleft : s.left = none)
    (hnext : ask b r u = (.ok a, t)) : a = page key := by
  rw [← hb.answer s.backend hkey]
  exact Except.ok.inj (hon.answered hleft hnext).1

/-- **What a backend notices of a request** at the cache is the request, if
it is handed on, and nothing, if it has a key and is not. -/
theorem Course.backend {choose : Chooser} {b : Backend β} {r : Request} {s : Scene β}
    {y : Except Interrupt Response × Scene β} (hc : Course choose (ask b) r s y)
    (hleft : s.left = none) :
    y.2.backend = (b r s.backend).2 ∨ key? r ≠ none ∧ y.2.backend = s.backend := by
  cases hc with
  | hit hkey hget => exact Or.inr ⟨by rw [hkey]; exact nofun, rfl⟩
  | interrupted hon hnext | bypassed _ hon hnext | passed _ hon hnext
  | unbuffered _ hon hnext | overflowed _ hon hnext | kept _ hon hnext =>
    exact Or.inl (hon.answered hleft hnext).2.2.2.2

/-- **A run of requests through a cache**, each with a choice of its own of
what is given up from the store. -/
def runCached (files : Files.Disk) (b : Backend β) :
    List (Chooser × Arrival) → Scene β → List (Except Interrupt Response) × Scene β
  | [], s => ([], s)
  | (choose, a) :: rest, s =>
    let (x, t) := caching (world files choose) (ask b) a.request (a.enter s)
    let (xs, u) := runCached files b rest t
    (x :: xs, u)

theorem runCached_cons (files : Files.Disk) (b : Backend β) (choose : Chooser)
    (a : Arrival) (rest : List (Chooser × Arrival)) (s : Scene β) :
    (runCached files b ((choose, a) :: rest) s).1
      = (caching (world files choose) (ask b) a.request (a.enter s)).1
        :: (runCached files b rest
            (caching (world files choose) (ask b) a.request (a.enter s)).2).1 := rfl

/-! ## A store of pages -/

/-- **A scene with nothing but pages in its store**, each under its key, and
without a limit of time. -/
structure Faithful (page : String → Response) (maxItemSize : Nat) (s : Scene β) :
    Prop where
  left : s.left = none
  maxItemSize_eq : s.store.maxItemSize = maxItemSize
  items : ∀ i ∈ s.store.items, ∃ expires,
    i.2 = offered (page i.1) (page i.1).body.data expires

namespace Faithful

variable {page : String → Response} {maxItemSize : Nat} {s t : Scene β}
variable {b : Backend β} {choose : Chooser} {r : Request}
variable {y : Except Interrupt Response × Scene β}

theorem shrinks (hs : Faithful page maxItemSize s) (hleft : t.left = none)
    (h : s.store.Shrinks t.store) : Faithful page maxItemSize t :=
  ⟨hleft, h.maxItemSize.trans hs.maxItemSize_eq, fun i hi => hs.items i (h.mem hi)⟩

/-- Time goes by, and pages stay pages. -/
theorem enter (hs : Faithful page maxItemSize s) (a : Arrival) :
    Faithful page maxItemSize (a.enter s) :=
  ⟨hs.left, hs.maxItemSize_eq, hs.items⟩

/-- A page is put among pages. -/
theorem insert (hs : Faithful page maxItemSize s) (choose : Chooser) (key : String)
    (now expires : Instant) :
    let store := (s.store.insert choose now key
      (offered (page key) (page key).body.data expires)).2
    store.maxItemSize = maxItemSize ∧ ∀ i ∈ store.items, ∃ expires,
      i.2 = offered (page i.1) (page i.1).body.data expires := by
  refine ⟨(Store.maxItemSize_insert choose now _ key _).trans hs.maxItemSize_eq,
    fun i hi => ?_⟩
  by_cases hfits : s.store.Fits (offered (page key) (page key).body.data expires)
  · rcases Store.mem_insert_of_fits choose now hfits hi with rfl | ⟨hold, -⟩
    · exact ⟨expires, rfl⟩
    · exact hs.items i hold
  · rw [Store.insert_of_not_fits choose now hfits] at hi
    exact hs.items i hi

/-- What was read of a page is all of it. -/
theorem body_eq {a : Response} {limit : Nat} {body : Bytes}
    (h : a.body.readWithin? limit = some body) : body = a.body.data := by
  have hread := (readWithin?_eq_some_iff.mp h).1
  unfold Body.read? at hread
  split at hread
  · cases hread
    rfl
  · cases hread

/-- **One request leaves pages**, whatever course it takes. -/
theorem step (hb : Serves b page) (hs : Faithful page maxItemSize s)
    (hc : Course choose (ask b) r s y) : Faithful page maxItemSize y.2 := by
  cases hc with
  | hit => exact ⟨hs.left, hs.maxItemSize_eq, hs.items⟩
  | interrupted hon hnext | bypassed _ hon hnext | passed _ hon hnext
  | unbuffered _ hon hnext | overflowed _ hon hnext =>
    obtain ⟨-, hleft, -, hshrinks, -⟩ := hon.answered hs.left hnext
    exact hs.shrinks hleft hshrinks
  | @kept u t a key seconds body expires hkey hon hnext hlife hread hlater =>
    obtain ⟨-, hleft, -, hshrinks, -⟩ := hon.answered hs.left hnext
    obtain rfl := hon.eq_page hb hkey hs.left hnext
    obtain rfl := body_eq hread
    obtain ⟨hmax, hitems⟩ :=
      (hs.shrinks hleft hshrinks).insert choose key t.clock expires
    exact ⟨hleft, hmax, hitems⟩

/-- **One request gets what the backend has for it.** -/
theorem answer (hb : Serves b page) (hs : Faithful page maxItemSize s)
    (htime : InTime page maxItemSize ⟨r, s.clock, s.millis⟩)
    (hc : Course choose (ask b) r s y) :
    ∃ a, y.1 = .ok a ∧ Same a (b r s.backend).1.2 := by
  cases hc with
  | @hit key e hkey hget =>
    have hmem := Store.mem_of_find? (Store.get_eq_some_iff.mp hget).1
    obtain ⟨expires, rfl⟩ : ∃ expires,
        e = offered (page key) (page key).body.data expires := hs.items _ hmem
    refine ⟨_, rfl, (Same.withOutcome _ _).trans ?_⟩
    rw [hb.answer s.backend hkey]
    exact .ofBytes (hb.complete key)
  | interrupted hon hnext => cases (hon.answered hs.left hnext).1
  | bypassed _ hon hnext | passed _ hon hnext =>
    cases (hon.answered hs.left hnext).1
    exact ⟨_, rfl, .withOutcome _ _⟩
  | @unbuffered u t a key seconds hkey hon hnext hlife hread =>
    obtain rfl := hon.eq_page hb hkey hs.left hnext
    -- the announced length is within the limit, and it is the length of the body
    obtain ⟨-, -, -, n, hn, hfits, -⟩ := lifetime?_eq_some_iff.mp hlife
    rw [hb.announced hn] at hfits
    have hhad : (page key).body.readWithin? t.store.maxItemSize
        = some (page key).body.data :=
      readWithin?_eq_some_iff.mpr ⟨if_pos (hb.complete key), hfits⟩
    rw [hread] at hhad
    cases hhad
  | @overflowed u t a key seconds body hkey hon hnext hlife hread hlater =>
    obtain ⟨-, -, hclock, hshrinks, -⟩ := hon.answered hs.left hnext
    obtain rfl := hon.eq_page hb hkey hs.left hnext
    rw [hshrinks.maxItemSize, hs.maxItemSize_eq] at hlife
    rw [hclock] at hlater
    exact absurd hlater (htime key seconds hkey hlife)
  | @kept u t a key seconds body expires hkey hon hnext hlife hread hlater =>
    obtain rfl := hon.eq_page hb hkey hs.left hnext
    obtain rfl := body_eq hread
    refine ⟨_, rfl, (Same.withOutcome _ _).trans ?_⟩
    rw [hb.answer s.backend hkey]
    exact .ofBytes (hb.complete key)

/-- An empty store has nothing but pages in it. -/
theorem start (page : String → Response) (capacity maxItemSize : Nat) (state : β) :
    Faithful page maxItemSize (.start (.empty capacity maxItemSize) state) :=
  ⟨rfl, rfl, nofun⟩

/-- **Every run of requests leaves pages.** -/
theorem run (hb : Serves b page) (files : Files.Disk) (hs : Faithful page maxItemSize s)
    (arrivals : List (Chooser × Arrival)) :
    Faithful page maxItemSize (runCached files b arrivals s).2 := by
  induction arrivals generalizing s with
  | nil => exact hs
  | cons d rest ih =>
    obtain ⟨choose, a⟩ := d
    exact ih ((hs.enter a).step hb (caching_course files choose (ask b) a.request (a.enter s)))

end Faithful

/-! ## Runs side by side -/

/-- **A backend that does not count its pages.** It has a side, `view`, that
requests with a key leave as it is, and that decides about all others. -/
structure Indifferent (b : Backend β) (view : β → σ) : Prop where
  keyed : ∀ {r} (state), key? r ≠ none → view (b r state).2 = view state
  answer : ∀ {r state state'}, key? r = none → view state = view state' →
    (b r state).1.2 = (b r state').1.2
  other : ∀ {r state state'}, key? r = none → view state = view state' →
    view (b r state).2 = view (b r state').2

/-- From a scene with nothing but pages in its store on, a run comes to the
same answers with the cache and without it. -/
theorem Faithful.sameEndings {b : Backend β} {page : String → Response}
    {maxItemSize : Nat} {view : β → σ} (hb : Serves b page) (hview : Indifferent b view)
    (files : Files.Disk) {s u : Scene β} (hs : Faithful page maxItemSize s)
    (hu : u.left = none) (hsame : view s.backend = view u.backend)
    (arrivals : List (Chooser × Arrival))
    (htime : ∀ d ∈ arrivals, InTime page maxItemSize d.2) :
    List.Forall₂ SameEnding (runCached files b arrivals s).1
      (runAll (ask b) (arrivals.map (·.2)) u).1 := by
  induction arrivals generalizing s u with
  | nil => exact .nil
  | cons d rest ih =>
    obtain ⟨choose, a⟩ := d
    have hcourse := caching_course files choose (ask b) a.request (a.enter s)
    have henter := hs.enter a
    have hask := ask_of_left b a.request (s := a.enter u) hu
    have htimes := List.forall_mem_cons.mp htime
    obtain ⟨x, hx, hxs⟩ := henter.answer hb htimes.1 hcourse
    have hanswer : (b a.request s.backend).1.2 = (b a.request u.backend).1.2 := by
      cases hkey : key? a.request with
      | none => exact hview.answer hkey hsame
      | some key => rw [hb.answer s.backend hkey, hb.answer u.backend hkey]
    have hafter : view (caching (world files choose) (ask b) a.request
        (a.enter s)).2.backend = view (b a.request u.backend).2 := by
      by_cases hkey : key? a.request = none
      · rcases hcourse.backend hs.left with hmet | ⟨hne, -⟩
        · rw [hmet]
          exact hview.other hkey hsame
        · exact absurd hkey hne
      · rw [hview.keyed u.backend hkey, ← hsame]
        rcases hcourse.backend hs.left with hmet | ⟨-, hspared⟩
        · rw [hmet]
          exact hview.keyed s.backend hkey
        · rw [hspared]
          rfl
    rw [List.map_cons, runCached_cons, runAll_cons, hask]
    refine .cons ⟨x, (b a.request u.backend).1.2, hx, rfl, ?_⟩
      (ih (henter.step hb hcourse) hu hafter htimes.2)
    rw [← hanswer]
    exact hxs

/-- **A cache is transparent.** Let the answer of a backend to every request
with a key be the page under the key, and let it answer all other requests
in any way. Whatever the size of the store, whatever is given up from it
and whenever the requests come: after every run, the next request that is in
time gets an answer, and it is the one that the backend would give to it.

If moreover the backend does not count how often its pages are asked for,
then a whole run with the cache comes to the answers of a whole run without
it. -/
theorem caching_transparent {b : Backend β} {page : String → Response}
    (hb : Serves b page) (files : Files.Disk) (capacity maxItemSize : Nat) (state : β) :
    let start := Scene.start (.empty capacity maxItemSize) state
    (∀ past choose a, InTime page maxItemSize a →
      let s := (runCached files b past start).2
      ∃ answer,
        (caching (world files choose) (ask b) a.request (a.enter s)).1 = .ok answer
          ∧ Same answer (b a.request s.backend).1.2)
      ∧ ∀ {σ : Type} (view : β → σ), Indifferent b view →
        ∀ arrivals, (∀ d ∈ arrivals, InTime page maxItemSize d.2) →
          List.Forall₂ SameEnding (runCached files b arrivals start).1
            (runAll (ask b) (arrivals.map (·.2)) start).1 := by
  intro start
  have hstart : Faithful page maxItemSize start := .start page capacity maxItemSize state
  refine ⟨fun past choose a htime => ?_, fun view hview arrivals htimes => ?_⟩
  · have henter := (hstart.run hb files past).enter a
    have hcourse := caching_course files choose (ask b) a.request
      (a.enter (runCached files b past start).2)
    obtain ⟨answer, hanswer, hsame⟩ := henter.answer hb htime hcourse
    exact ⟨answer, hanswer, hsame⟩
  · exact hstart.sameEndings hb hview files rfl rfl arrivals htimes

/-- A page that says its own key, and may be stored for a minute. -/
def minutePage (key : String) : Response :=
  ⟨.ok, ⟨[⟨"cache-control", Bytes.ofString "public, max-age=60"⟩]⟩, Body.ofString key⟩

/-- A backend that serves these pages and counts all other requests. -/
def paging : Backend Nat := fun r n =>
  match key? r with
  | some key => ((0, minutePage key), n)
  | none => ((0, .bare .ok), n + 1)

/-- The page as a client gets it that asks for it again. -/
def pageAgain : Response :=
  withOutcome (minutePage "/page") .hit

/-- Two requests for it, one after the other. -/
def twice : List (Chooser × Arrival) :=
  [(fun _ => 0, pageAfter 0), (fun _ => 0, pageAfter 5)]

/-- A cache before the first of them. -/
def beforePage : Scene Nat := .start (.empty 1000 100) 0

/-- What the first of them leaves. -/
def afterPage : Scene Nat := (runCached .empty paging (twice.take 1) beforePage).2

/-- A page that was asked for comes from the store, and is the same page. -/
theorem caching_transparent_paging :
    Serves paging minutePage
      ∧ Indifferent paging id
      ∧ (∀ d ∈ twice, InTime minutePage 100 d.2)
      ∧ (caching (world .empty fun _ => 0) (ask paging) (pageAfter 5).request
          ((pageAfter 5).enter afterPage)).1 = .ok pageAgain
      ∧ Same pageAgain (minutePage "/page")
      ∧ List.Forall₂ SameEnding (runCached .empty paging twice beforePage).1
          (runAll (ask paging) (twice.map (·.2)) beforePage).1 := by
  have hserves : Serves paging minutePage := by
    refine ⟨fun {r key} state hkey => ?_, fun _ => rfl, fun {key n} h => ?_⟩
    · unfold paging
      rw [hkey]
    · have hnone : statedLength? (minutePage key) = none := rfl
      rw [hnone] at h
      cases h
  have hindifferent : Indifferent paging id := by
    refine ⟨fun {r} state hne => ?_, fun hnone _ => ?_, fun {r n m} hnone hnm => ?_⟩
    · obtain ⟨key, hkey⟩ := Option.ne_none_iff_exists'.mp hne
      unfold paging
      rw [hkey]
    · unfold paging
      rw [hnone]
    · rw [show n = m from hnm]
  -- when a page is asked for does not matter for its key
  have hkey (n : Nat) : key? (pageAfter n).request = some "/page" :=
    show key? (pageAfter 0).request = some "/page" by decide +kernel
  have htime (n : Nat) (h : (pageAfter n).clock.later? 60 ≠ none) :
      InTime minutePage 100 (pageAfter n) := by
    intro key seconds hkey' hlife
    obtain rfl : "/page" = key := Option.some.inj ((hkey n).symm.trans hkey')
    have hminute : lifetime? (minutePage "/page") 100 = some 60 := by cbv
    obtain rfl : 60 = seconds := Option.some.inj (hminute.symm.trans hlife)
    exact h
  have htimes : ∀ d ∈ twice, InTime minutePage 100 d.2 :=
    List.forall_mem_cons.mpr ⟨htime 0 (by decide),
      List.forall_mem_singleton.mpr (htime 5 (by decide))⟩
  have hagain : (caching (world .empty fun _ => 0) (ask paging) (pageAfter 5).request
      ((pageAfter 5).enter afterPage)).1 = .ok pageAgain := by cbv
  obtain ⟨hnext, hruns⟩ := caching_transparent hserves .empty 1000 100 0
  obtain ⟨answer, hanswer, hsame⟩ := hnext (twice.take 1) (fun _ => 0) (pageAfter 5)
    (htime 5 (by decide))
  obtain rfl : pageAgain = answer := Except.ok.inj (hagain.symm.trans hanswer)
  rw [hserves.answer _ (hkey 5)] at hsame
  exact ⟨hserves, hindifferent, htimes, hagain, hsame,
    hruns id hindifferent twice htimes⟩

end Gatehouse.Chain
