import Gatehouse.Proofs.Cache.Eviction
import Gatehouse.Proofs.Cache.Rule
import Gatehouse.Proofs.Chain.Filing
import Gatehouse.Proofs.Chain.Tally
import Gatehouse.Proofs.Forward.Host

/-!
# What a request leaves in the store

Most requests leave the store as it was. They are refused before they reach it,
they are answered from it, or what comes back is not for it, and some are given
up while the answer is on its way. All that such a request can do to the store
is to drop one stale entry, which is the one under its own key (`Spared`). A
request that does store something puts it under its own key, and of the entries
under other keys it can only take some away (`Filed`).

The reasons for storing nothing are listed twice, once for the cache
(`KeepsNothing`) and once for the chain around it (`Plan.StoresNothing`), and
the lists are complete: where there is no such reason, something is stored. A
deadline counts as one where it passes behind the cache, and where it is over
before anything has begun. In front of the cache there is one more place where
time goes by: the file that a response names is opened there, and the response
has been stored by then. A client whose time is over at this place has left more
in the store than it knows (`Plan.Unopened`).
-/

namespace Gatehouse.Chain

open Http Cache Country Exchange Forward

variable {β : Type}

/-! ## What answers behind the cache -/

/-- **A handler that has nothing to do with the store.** -/
def Detached (h : Handler (Exchange β)) : Prop := ∀ r s, (h r s).2.store = s.store

namespace Detached

theorem ask (b : Backend β) : Detached (ask b) := (Source.ofBackend b).store_answer

/-- The innermost handler of the gate does not reach the store, whatever is at
the other end of its line. -/
theorem forwarder (files : Files.Disk) (choose : Chooser) (f : Forwarder) (l : Line β) :
    Detached (f.handle (world files choose) (dial l)) :=
  fun r s => (handle_delivery files choose f l r s).store_eq

theorem tunnelRule {next : Handler (Exchange β)} (h : Detached next) :
    Detached (tunnelRule next) := by
  intro r s
  have hstore := h r s
  unfold Chain.tunnelRule
  rw [bind_apply]
  rcases hx : next r s with ⟨_ | _, t⟩
  · rw [hx] at hstore
    exact hstore
  · rw [hx] at hstore
    exact hstore

end Detached

/-! ## What is left -/

/-- **The store is spared**: it is the one from before, or a stale entry under
the key of the request is gone from it. -/
inductive Spared (r : Request) (s : Scene β) : Store → Prop
  | untouched : Spared r s s.store
  | dropped {key : String} {e : Entry} (hkey : key? r = some key)
      (hfind : s.store.find? key = some e) (hstale : e.isFresh s.clock = false) :
      Spared r s (s.store.remove key)

/-- **An entry is filed**: it is under its key now, and the entries under other
keys are some of those from before, with nothing about them changed. -/
structure Filed (key : String) (e : Entry) (before after : Store) : Prop where
  entry : after.find? key = some e
  others : (after.others key).Sublist (before.others key)
  capacity : after.capacity = before.capacity
  maxItemSize : after.maxItemSize = before.maxItemSize

/-- A lookup that finds nothing fresh spares the store. -/
theorem HandedOn.spared {r : Request} {s u : Scene β} (h : HandedOn r s u) :
    Spared r s u.store := by
  cases h with
  | bypass => exact .untouched
  | @miss key hkey hget =>
    show Spared r s (s.store.get s.clock key).2
    unfold Store.get at hget ⊢
    cases hfind : s.store.find? key with
    | none => exact .untouched
    | some e =>
      rw [hfind] at hget
      dsimp only at hget ⊢
      cases hfresh : e.isFresh s.clock with
      | true =>
        rw [hfresh] at hget
        cases hget
      | false => exact .dropped hkey hfind hfresh

/-- No key comes into a store that is spared. -/
theorem Spared.find?_eq_none {r : Request} {s : Scene β} {after : Store} {key : String}
    (h : Spared r s after) (hnone : s.store.find? key = none) : after.find? key = none := by
  cases h with
  | untouched => exact hnone
  | dropped => exact (Store.shrinks_remove _ _).find?_eq_none hnone

/-- What an insertion makes of a store that has shrunk before. -/
theorem filed_insert {s t : Store} (choose : Chooser) (now : Instant) {key : String}
    {e : Entry} (hshrinks : s.Shrinks t) (hfits : t.Fits e) :
    Filed key e s (t.insert choose now key e).2 where
  entry := Store.find?_insert_of_fits choose now hfits
  others := by
    have hroom := (Store.shrinks_makeRoom (t.remove key) choose now e.body.length).items
    rw [Store.items_remove] at hroom
    rw [Store.others_insert_of_fits choose now hfits]
    exact hroom.trans (hshrinks.items.filter _)
  capacity := (Store.capacity_insert choose now t key e).trans hshrinks.capacity
  maxItemSize := (Store.maxItemSize_insert choose now t key e).trans hshrinks.maxItemSize

/-! ## At the cache -/

/-- **Why a cache keeps nothing of a request.** -/
inductive KeepsNothing (next : Handler (Exchange β)) (r : Request) (s : Scene β) : Prop
  /-- It bypasses the cache. -/
  | bypassed (hkey : key? r = none)
  /-- It is answered from the store. -/
  | hit {key : String} {e : Entry} (hkey : key? r = some key)
      (hget : (s.store.get s.clock key).1 = some e)
  /-- It is given up while it is answered, as when its time is over. -/
  | interrupted {u t : Scene β} {i : Interrupt} (hon : HandedOn r s u)
      (hnext : next r u = (.error i, t))
  /-- The answer may not be stored; none that reports a failure may. -/
  | uncacheable {u t : Scene β} {a : Response} (hon : HandedOn r s u)
      (hnext : next r u = (.ok a, t)) (hlife : lifetime? a s.store.maxItemSize = none)
  /-- The body of the answer breaks off, or is longer than what is stored. -/
  | unread {u t : Scene β} {a : Response} (hon : HandedOn r s u)
      (hnext : next r u = (.ok a, t))
      (hread : a.body.readWithin? s.store.maxItemSize = none)
  /-- The answer would be fresh for longer than there is time. -/
  | endless {u t : Scene β} {a : Response} {seconds : Nat} (hon : HandedOn r s u)
      (hnext : next r u = (.ok a, t))
      (hlife : lifetime? a s.store.maxItemSize = some seconds)
      (hlater : t.clock.later? seconds = none)
  /-- The body is larger than the whole store. -/
  | large {u t : Scene β} {a : Response} {body : Bytes} (hon : HandedOn r s u)
      (hnext : next r u = (.ok a, t))
      (hread : a.body.readWithin? s.store.maxItemSize = some body)
      (hlarge : s.store.capacity < body.length)

section Cache

variable {choose : Chooser} {next : Handler (Exchange β)} {r : Request} {s u t : Scene β}
variable {y : Except Interrupt Response × Scene β}

/-- What is handed on to a detached handler meets a store that has shrunk. -/
theorem HandedOn.shrinks_detached {x : Except Interrupt Response} (hon : HandedOn r s u)
    (hnext : Detached next) (h : next r u = (x, t)) :
    t.store = u.store ∧ s.store.Shrinks t.store := by
  have hstore := hnext r u
  rw [h] at hstore
  have hstore : t.store = u.store := hstore
  exact ⟨hstore, hstore ▸ hon.shrinks⟩

/-- An answer that is offered to the store and fits into it leaves no reason to
keep nothing. -/
theorem not_keepsNothing {a : Response} {key : String} {seconds : Nat} {body : Bytes}
    {expires : Instant} (hkey : key? r = some key) (hon : HandedOn r s u)
    (hnext : next r u = (.ok a, t)) (hlife : lifetime? a s.store.maxItemSize = some seconds)
    (hread : a.body.readWithin? s.store.maxItemSize = some body)
    (hlater : t.clock.later? seconds = some expires) (hroom : body.length ≤ s.store.capacity) :
    ¬ KeepsNothing next r s := by
  intro h
  cases h with
  | bypassed hkey' =>
    rw [hkey] at hkey'
    cases hkey'
  | hit hkey' hget =>
    rw [hon.get_eq_none hkey'] at hget
    cases hget
  | interrupted hon' hnext' => cases (hon.same_answer hnext hon' hnext').1
  | uncacheable hon' hnext' hlife' =>
    obtain ⟨⟨⟩, rfl⟩ := hon.same_answer hnext hon' hnext'
    rw [hlife] at hlife'
    cases hlife'
  | unread hon' hnext' hread' =>
    obtain ⟨⟨⟩, rfl⟩ := hon.same_answer hnext hon' hnext'
    rw [hread] at hread'
    cases hread'
  | endless hon' hnext' hlife' hlater' =>
    obtain ⟨⟨⟩, rfl⟩ := hon.same_answer hnext hon' hnext'
    rw [hlife] at hlife'
    cases hlife'
    rw [hlater] at hlater'
    cases hlater'
  | large hon' hnext' hread' hlarge =>
    obtain ⟨⟨⟩, rfl⟩ := hon.same_answer hnext hon' hnext'
    rw [hread] at hread'
    cases hread'
    exact absurd hroom (Nat.not_le.mpr hlarge)

/-- **What a request leaves at a cache**: the store is spared where there is a
reason, and where there is none, an answer with status `200` is filed under the
key of the request. -/
theorem Course.residue (hnext : Detached next) (hc : Course choose next r s y) :
    (KeepsNothing next r s → Spared r s y.2.store)
      ∧ (¬ KeepsNothing next r s → ∃ key e, key? r = some key
        ∧ Filed key e s.store y.2.store ∧ ∃ a, y.1 = .ok a ∧ a.status = Status.ok) := by
  have hspared {u t : Scene β} {x : Except Interrupt Response} (hon : HandedOn r s u)
      (h : next r u = (x, t)) : Spared r s t.store := by
    rw [(hon.shrinks_detached hnext h).1]
    exact hon.spared
  have hlimit {u t : Scene β} {x : Except Interrupt Response} (hon : HandedOn r s u)
      (h : next r u = (x, t)) : t.store.maxItemSize = s.store.maxItemSize :=
    (hon.shrinks_detached hnext h).2.maxItemSize
  cases hc with
  | hit hkey hget => exact ⟨fun _ => .untouched, fun h => absurd (.hit hkey hget) h⟩
  | interrupted hon h =>
    exact ⟨fun _ => hspared hon h, fun hnot => absurd (.interrupted hon h) hnot⟩
  | bypassed hkey hon h =>
    exact ⟨fun _ => hspared hon h, fun hnot => absurd (.bypassed hkey) hnot⟩
  | passed hkey hon h hlife =>
    rw [hlimit hon h] at hlife
    exact ⟨fun _ => hspared hon h, fun hnot => absurd (.uncacheable hon h hlife) hnot⟩
  | unbuffered hkey hon h hlife hread =>
    have hleft := hspared hon h
    rw [hlimit hon h] at hread
    exact ⟨fun _ => hleft, fun hnot => absurd (.unread hon h hread) hnot⟩
  | overflowed hkey hon h hlife hread hlater =>
    rw [hlimit hon h] at hlife
    exact ⟨fun _ => hspared hon h, fun hnot => absurd (.endless hon h hlife hlater) hnot⟩
  | @kept u t a key seconds body expires hkey hon h hlife hread hlater =>
    have hshrinks := (hon.shrinks_detached hnext h).2
    rw [hlimit hon h] at hlife hread
    have hlength := (readWithin?_eq_some_iff.mp hread).2
    -- the store refuses nothing that was read but what is larger than all of it
    by_cases hroom : body.length ≤ s.store.capacity
    · have hfits : t.store.Fits (offered a body expires) :=
        ⟨hshrinks.maxItemSize ▸ hlength, hshrinks.capacity ▸ hroom⟩
      refine ⟨fun hnothing => ?_, fun _ => ⟨key, _, hkey, filed_insert choose t.clock hshrinks
        hfits, _, rfl, (lifetime?_eq_some_iff.mp hlife).1⟩⟩
      exact absurd hnothing (not_keepsNothing hkey hon h hlife hread hlater hroom)
    · have hrefused : ¬ t.store.Fits (offered a body expires) :=
        fun hfits => hroom (hshrinks.capacity ▸ hfits.2)
      refine ⟨fun _ => ?_, fun hnot =>
        absurd (.large hon h hread (Nat.lt_of_not_le hroom)) hnot⟩
      dsimp only
      rw [Store.insert_of_not_fits choose t.clock hrefused]
      exact hspared hon h

end Cache

/-! ## Around the cache -/

/-- **Why a chain stores nothing for a request.** -/
inductive Plan.StoresNothing (p : Plan) (inner : Handler (Exchange β)) (r : Request)
    (s : Scene β) : Prop
  /-- The filter turns it away. -/
  | denied (haway : p.TurnsAway r)
  /-- It announces more than the limit for bodies. -/
  | oversized {n : Nat} (hlimit : 0 < p.maxRequestBody)
      (hlength : declaredLength? r = some n) (hover : p.maxRequestBody < n)
  /-- Its time is over before anything has begun. -/
  | overdue (htime : p.Overdue s.clock)
  /-- There is no cache. -/
  | uncached (hcache : p.cacheEnabled = false)
  /-- The cache keeps nothing of it. -/
  | unkept {q : Request} (hon : p.onward s.millis r = some q)
      (hnothing : KeepsNothing (tunnelRule inner) q (p.ahead r s))

section Plans

variable {p : Plan} {r q : Request} {millis : Nat}

/-- Nothing is handed on of a request that announces too much. -/
theorem curtail_eq_none {limit n : Nat} (hlength : declaredLength? r = some n)
    (hover : limit < n) : curtail limit r = none := by
  unfold curtail
  rw [hlength]
  exact if_pos hover

theorem Plan.inward_eq_none {n : Nat} (hlimit : 0 < p.maxRequestBody)
    (hlength : declaredLength? r = some n) (hover : p.maxRequestBody < n) :
    p.inward millis r = none := by
  unfold Plan.inward
  rw [if_pos hlimit, curtail_eq_none hlength hover, Option.map_none]

theorem Plan.onward_eq_none_of_oversized {n : Nat} (hlimit : 0 < p.maxRequestBody)
    (hlength : declaredLength? r = some n) (hover : p.maxRequestBody < n) :
    p.onward millis r = none := by
  cases hon : p.onward millis r with
  | none => rfl
  | some q =>
    rcases Plan.inward_cases hon with hinward | ⟨f, hinward⟩
    · rw [Plan.inward_eq_none hlimit hlength hover] at hinward
      cases hinward
    · rw [← declaredLength?_admitted f r] at hlength
      rw [Plan.inward_eq_none hlimit hlength hover] at hinward
      cases hinward

/-- On its way to the cache, a request does not change its key. -/
theorem Plan.key?_of_onward (h : p.onward millis r = some q) : key? q = key? r := by
  have hvalues {name : String} (hcountry : name ≠ countryHeader)
      (hstart : name ≠ startHeader) (htype : name ≠ sendfileType) :=
    Plan.values_of_onward h hcountry hstart htype
  have hcontains : q.headers.contains "authorization" = r.headers.contains "authorization" := by
    rw [Bool.eq_iff_iff, Headers.contains_eq_true_iff, Headers.contains_eq_true_iff,
      hvalues (by decide) (by decide) (by decide)]
  obtain ⟨hmethod, huri, -⟩ := Plan.rest_of_onward h
  unfold key? hostOf Headers.text? Headers.get?
  rw [hmethod, huri, hcontains, hvalues (by decide) (by decide) (by decide)]

/-- A store is spared by a request if it is by what the request is handed on
as. -/
theorem Spared.of_onward {s : Scene β} {after : Store} (hon : p.onward s.millis r = some q)
    (h : Spared q (p.ahead r s) after) : Spared r s after := by
  cases h with
  | untouched => exact .untouched
  | dropped hkey hfind hstale =>
    rw [Plan.key?_of_onward hon] at hkey
    exact .dropped hkey hfind hstale

end Plans

/-! ## Statuses -/

/-- The statuses of answers in which a file is served, or would be. -/
def fileStatuses : List Status :=
  [.ok, .partialContent, .notFound, .methodNotAllowed, .rangeNotSatisfiable,
    .internalServerError]

section Statuses

variable (files : Files.Disk)

theorem status_encoded (h : Headers) (a : Response) : (encoded h a).status = a.status := by
  unfold encoded
  split
  · split <;> rfl
  · rfl

theorem status_openedResponse (method : Method) (range : Option String) (path : String)
    (n : Files.Node) (modified : Nat) :
    (openedResponse method range path n modified).status ∈ fileStatuses := by
  unfold openedResponse rangeResponse
  dsimp only
  split
  · split <;> simp [fileStatuses]
  · simp [fileStatuses]

theorem status_fileAnswer (method : Method) (range : Option String) (path : String) :
    (fileAnswer files method range path).status ∈ fileStatuses := by
  unfold fileAnswer
  split
  · split
    · simp [fileStatuses, Response.bare]
    · simp [fileStatuses, Response.bare]
    · exact status_openedResponse _ _ _ _ _
  · simp [fileStatuses, Response.bare, Response.withHeader]

/-- **What an answer with status `200` can leave as.** -/
theorem Plan.status_outward (p : Plan) (q : Request) {i : Response} (h : i.status = .ok) :
    (p.outward files q i).status ∈ fileStatuses := by
  have hok : i.status ∈ fileStatuses := by
    rw [h]
    simp [fileStatuses]
  have hfiled : (filed files q i).status ∈ fileStatuses := by
    unfold filed
    split
    · exact hok
    · split
      · exact status_fileAnswer files _ _ _
      · simp [fileStatuses, Response.bare]
  have hserved : (if p.xSendfile then filed files q i else i).status ∈ fileStatuses := by
    split
    · exact hfiled
    · exact hok
  unfold Plan.outward
  dsimp only
  split
  · rw [status_encoded]
    exact hserved
  · exact hserved

end Statuses

/-! ## At the chain -/

/-- **The time of a request is over before a file is open**: there is a response
from inside, and the file that it names takes longer than there is time. -/
def Plan.Unopened (p : Plan) (files : Files.Disk) (choose : Chooser)
    (inner : Handler (Exchange β)) (r : Request) (s : Scene β) : Prop :=
  ∃ q i, p.fromInside? files choose inner r s = some (q, i)
    ∧ ¬ (p.afterInside files choose inner r q s).Allows (p.filingDelay files q i)

section Chain

variable (p : Plan) (files : Files.Disk) (choose : Chooser)
variable {inner : Handler (Exchange β)} (r : Request) (s : Scene β)

/-- **What is left when a request has been inside.** -/
theorem Plan.inside_residue (hinner : Detached inner) {q : Request}
    (htime : ¬ p.Overdue s.clock) (hon : p.onward s.millis r = some q)
    {x : Except Interrupt Response} {t : Scene β}
    (hx : p.inside (world files choose) inner q (p.ahead r s) = (x, t)) :
    (p.StoresNothing inner r s → Spared r s t.store)
      ∧ (¬ p.StoresNothing inner r s → ∃ key e, key? r = some key
        ∧ Filed key e s.store t.store ∧ ∃ i, x = .ok i ∧ i.status = Status.ok) := by
  unfold Plan.inside Plan.wrapIf at hx
  cases hcache : p.cacheEnabled with
  | false =>
    rw [hcache] at hx
    have hstore := hinner.tunnelRule q (p.ahead r s)
    rw [show tunnelRule inner q (p.ahead r s) = (x, t) from hx] at hstore
    have hstore : t.store = s.store := hstore
    exact ⟨fun _ => hstore ▸ .untouched, fun hnot => absurd (.uncached hcache) hnot⟩
  | true =>
    rw [hcache, if_pos rfl] at hx
    have hcourse := caching_course files choose (tunnelRule inner) q (p.ahead r s)
    rw [hx] at hcourse
    obtain ⟨hspared, hfiled⟩ := hcourse.residue hinner.tunnelRule
    refine ⟨fun hnothing => ?_, fun hnot => ?_⟩
    · -- what is handed on has passed all layers, so the reason is the cache's
      cases hnothing with
      | denied haway =>
        rw [haway.onward_eq_none] at hon
        cases hon
      | oversized hlimit hlength hover =>
        rw [Plan.onward_eq_none_of_oversized hlimit hlength hover] at hon
        cases hon
      | overdue htime' => exact absurd htime' htime
      | uncached hcache' =>
        rw [hcache] at hcache'
        cases hcache'
      | unkept hon' hnothing =>
        rw [hon] at hon'
        cases hon'
        exact (hspared hnothing).of_onward hon
    · obtain ⟨key, e, hkey, hentry, hanswer⟩ := hfiled fun h => hnot (.unkept hon h)
      exact ⟨key, e, (Plan.key?_of_onward hon).symm.trans hkey, hentry, hanswer⟩

/-- **What a request leaves at a chain.** -/
theorem Plan.Journey.residue {y : Except Interrupt Response × Scene β}
    (hinner : Detached inner) (hway : p.Journey files choose inner r s y) :
    (p.StoresNothing inner r s → Spared r s y.2.store)
      ∧ (¬ p.StoresNothing inner r s → ∃ key e, key? r = some key
        ∧ Filed key e s.store y.2.store
        ∧ ∃ a, y.1 = .ok a ∧ (a.status ∈ fileStatuses
          ∨ a.status = .requestTimeout ∧ p.Unopened files choose inner r s)) := by
  cases hway with
  | overdue htime => exact ⟨fun _ => .untouched, fun hnot => absurd (.overdue htime) hnot⟩
  | refused _ hon =>
    refine ⟨fun _ => .untouched, fun hnot => absurd hon (Plan.onward_ne_none ?_ ?_)⟩
    · exact fun f hfilter hden => hnot (.denied ⟨f, hfilter, hden⟩)
    · intro hlimit n hlength
      by_contra hover
      exact hnot (.oversized hlimit hlength (Nat.lt_of_not_le hover))
  | @answered q i t htime hon hinside =>
    obtain ⟨hspared, hfiled⟩ := p.inside_residue files choose r s hinner htime hon hinside
    refine ⟨hspared, fun hnot => ?_⟩
    obtain ⟨key, e, hkey, hentry, i', hi, hok⟩ := hfiled hnot
    cases hi
    refine ⟨key, e, hkey, hentry, _, rfl, .inl ?_⟩
    rw [status_conclude]
    exact p.status_outward files q hok
  | @unopened q i t htime hon hinside hfile =>
    -- the response was stored, or not, when its file came to be opened
    obtain ⟨hspared, hfiled⟩ := p.inside_residue files choose r s hinner htime hon hinside
    refine ⟨hspared, fun hnot => ?_⟩
    obtain ⟨key, e, hkey, hentry, -⟩ := hfiled hnot
    have hafter : p.afterInside files choose inner r q s = t := congrArg Prod.snd hinside
    have hunopened : p.Unopened files choose inner r s :=
      ⟨q, i, Plan.fromInside?_eq_some_iff.mpr ⟨htime, hon, by rw [hafter, hinside]⟩,
        by rwa [hafter]⟩
    exact ⟨key, e, hkey, hentry, _, rfl, .inr ⟨status_conclude _ _, hunopened⟩⟩
  | late htime hon hinside | abandoned htime hon hinside =>
    obtain ⟨hspared, hfiled⟩ := p.inside_residue files choose r s hinner htime hon hinside
    refine ⟨hspared, fun hnot => ?_⟩
    obtain ⟨_, _, -, -, i, hi, -⟩ := hfiled hnot
    cases hi

/-- **What requests leave in the store**, for every chain around a handler that
has nothing to do with the store, and for every store.

A request that the filter or the body limit rejects, that bypasses the cache or
is answered from it, that is given up while it is answered, or whose answer may
not be stored or cannot be read to its end, leaves the store as it was, but that
a stale entry under its own key may be gone. So does every request whose client
gets `403`, `413` or `502`, and every one whose client gets `408`, unless its time
was over while a file was opened. Where there is no reason to store nothing, an
entry is filed under the key of the request, and the entries under other keys
are unchanged or gone. -/
theorem serve_residue (hinner : Detached inner) :
    let y := p.serve (world files choose) inner r s
    (p.StoresNothing inner r s → Spared r s y.2.store)
      ∧ (∀ a, y.1 = .ok a → a.status.code ∈ [403, 413, 502] → Spared r s y.2.store)
      ∧ (∀ a, y.1 = .ok a → a.status.code = 408 → ¬ p.Unopened files choose inner r s →
        Spared r s y.2.store)
      ∧ (¬ p.StoresNothing inner r s →
        ∃ key e, key? r = some key ∧ Filed key e s.store y.2.store) := by
  intro y
  obtain ⟨hspared, hfiled⟩ :=
    (p.serve_journey files choose inner r s).residue p files choose r s hinner
  have hcodes : ∀ status ∈ fileStatuses, status.code ∉ [403, 408, 413, 502] := by decide
  refine ⟨hspared, fun a ha hcode => ?_, fun a ha hcode hopened => ?_, fun hnot => ?_⟩
  · by_contra hnot
    obtain ⟨_, _, -, -, a', ha', hstatus⟩ := hfiled fun h => hnot (hspared h)
    obtain rfl : a = a' := Except.ok.inj (ha.symm.trans ha')
    rcases hstatus with hfile | ⟨hlate, -⟩
    · refine hcodes _ hfile ?_
      simp only [List.mem_cons, List.not_mem_nil, or_false] at hcode ⊢
      omega
    · rw [hlate] at hcode
      exact absurd hcode (by decide)
  · by_contra hnot
    obtain ⟨_, _, -, -, a', ha', hstatus⟩ := hfiled fun h => hnot (hspared h)
    obtain rfl : a = a' := Except.ok.inj (ha.symm.trans ha')
    rcases hstatus with hfile | ⟨-, hunopened⟩
    · exact hcodes _ hfile (by rw [hcode]; decide)
    · exact hopened hunopened
  · obtain ⟨key, e, hkey, hentry, -⟩ := hfiled hnot
    exact ⟨key, e, hkey, hentry⟩

end Chain

/-- A store with one entry, which is fresh for a minute. -/
def aboutStore : Store :=
  ⟨1000, 100, 1, [("/about", ⟨.ok, Headers.empty, [7], ⟨60000000000⟩⟩)]⟩

/-- A page is filed beside the entry that is there. A page that breaks off is
not, and the client gets `502`. -/
theorem serve_residue_page :
    let filed := everyLayer.serve (world .empty fun _ => 0) (ask ticking)
      (pageAfter 5).request ((pageAfter 5).enter (.start aboutStore 0))
    let broken := everyLayer.serve (world .empty fun _ => 0) (ask breaking)
      (pageAfter 5).request ((pageAfter 5).enter (.start aboutStore ()))
    (∃ e, Filed "/page" e aboutStore filed.2.store)
      ∧ ∃ a, broken.1 = .ok a ∧ a.status = .badGateway
        ∧ Spared (pageAfter 5).request ((pageAfter 5).enter (.start aboutStore ()))
          broken.2.store := by
  intro filed broken
  have hkey : key? (pageAfter 5).request = some "/page" := by decide +kernel
  obtain ⟨hspared, -, -, hfiled⟩ := serve_residue everyLayer .empty (fun _ => 0)
    (pageAfter 5).request ((pageAfter 5).enter (.start aboutStore 0)) (.ask ticking)
  obtain ⟨-, hstatus, -⟩ := serve_residue everyLayer .empty (fun _ => 0)
    (pageAfter 5).request ((pageAfter 5).enter (.start aboutStore ())) (.ask breaking)
  have hbroken : broken.1
      = .ok ⟨.badGateway, ⟨[⟨"content-length", Bytes.ofString "0"⟩]⟩, Body.empty⟩ := by
    decide +kernel
  refine ⟨?_, _, hbroken, rfl, hstatus _ hbroken (by decide)⟩
  have hfound : filed.2.store.find? "/page" ≠ none := by decide +kernel
  obtain ⟨key, e, hkey', hentry⟩ :=
    hfiled fun h => hfound ((hspared h).find?_eq_none (by decide +kernel))
  rw [hkey] at hkey'
  cases hkey'
  exact ⟨e, hentry⟩

/-- **A client that is late and leaves an entry.** It hears that its time is over,
and the response that named the file has been stored. -/
theorem timedOut_filed :
    let s : Scene Unit := (pageAfter 0).enter (.start (.empty 1000 100) ())
    let y := everyLayer.serve (world slowShelf fun _ => 0) (ask pointing)
      (pageAfter 0).request s
    (∃ a, y.1 = .ok a ∧ a.status = .requestTimeout)
      ∧ ¬ Spared (pageAfter 0).request s y.2.store := by
  intro s y
  have hanswer : y.1 = .ok (conclude .get (.bare .requestTimeout)) := by decide +kernel
  have hfound : y.2.store.find? "/page" ≠ none := by decide +kernel
  exact ⟨⟨_, hanswer, status_conclude _ _⟩, fun h => hfound (h.find?_eq_none rfl)⟩

end Gatehouse.Chain
