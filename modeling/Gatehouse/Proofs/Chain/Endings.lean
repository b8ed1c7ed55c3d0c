import Gatehouse.Proofs.Cache.Accounting
import Gatehouse.Proofs.Chain.Asking
import Gatehouse.Proofs.Chain.Transparency

/-!
# Whether there is an answer

Every request should be answered, whatever the backend does and however the
cache is configured. An exchange can end without an answer for two reasons.
The time of a request can be over; that is noticed by the layer that has set
the limit, and answered. The other reason is not noticed by anybody: a
response is to be stored until a point in time that the clock does not have.

The lifetime is a number that the backend writes, and it can be as large as
64 bits allow, while the clock ends with 63. So a response that outlasts the
clock (`Outlasts`) costs its own client the answer. It is the only one that
does (`caching_answers_iff`). All other sums on the way are sums of bodies
that are there, and stay within twice the capacity of the store
(`Store.InRange`).
-/

namespace Gatehouse.Cache.Store

/-- **The sums and differences of an insertion**: nothing is taken from less
than it, and all that is added up are the bodies that there are. -/
structure InRange (s : Store) (choose : Chooser) (now : Instant) (key : String)
    (e : Entry) : Prop where
  /-- The entry that is replaced was counted. -/
  replaced : ∀ old, s.find? key = some old → old.body.length ≤ s.size
  /-- The sum that is compared with the capacity. -/
  wanted : (s.remove key).size + e.body.length ≤ 2 * s.capacity
  /-- The entries that are purged were counted. -/
  purged : bytes ((s.remove key).items.filter fun i => !i.2.isFresh now)
    ≤ (s.remove key).size
  /-- The sum that becomes the new count. -/
  added : ((s.remove key).makeRoom choose now e.body.length).size + e.body.length
    ≤ s.capacity

/-- A store whose books are in order counts within its range. -/
theorem InOrder.inRange {s : Store} {e : Entry} (h : s.InOrder) (choose : Chooser)
    (now : Instant) (key : String) (hfits : s.Fits e) : s.InRange choose now key e := by
  have hcapacity : (s.remove key).capacity = s.capacity := (shrinks_remove s key).capacity
  have hremoved := h.remove key
  have hsize := hremoved.size_le
  have hroom := (hremoved.makeRoom choose now e.body.length).2
  rw [hcapacity] at hsize hroom
  refine ⟨fun old hfind => h.length_le_size hfind, ?_, hremoved.stale_le_size now,
    hroom hfits.2⟩
  have hbody := hfits.2
  omega

end Gatehouse.Cache.Store

namespace Gatehouse.Chain

open Http Cache Exchange

variable {α γ β : Type}

/-! ## One request -/

/-- **A response that outlasts the clock.** The request has a key with
nothing fresh under it, the response may be stored and its body can be had,
and its lifetime leads past the last second of the clock. -/
def Outlasts (r : Request) (s : Scene β) (response : Response) : Prop :=
  ∃ key seconds body, key? r = some key ∧ (s.store.get s.clock key).1 = none
    ∧ lifetime? response s.store.maxItemSize = some seconds
    ∧ response.body.readWithin? s.store.maxItemSize = some body
    ∧ Instant.maxSecs < s.clock.secs + seconds

/-- **Whatever course a request takes, it is answered**, unless the response
of the backend outlasts the clock. -/
theorem Course.ending {choose : Chooser} {b : Backend β} {r : Request} {s : Scene β}
    {y : Except Interrupt Response × Scene β} (hc : Course choose (ask b) r s y)
    (hleft : s.left = none) :
    (Outlasts r s (b r s.backend).1.2 ∧ y.1 = .error .clockOverflow)
      ∨ (¬ Outlasts r s (b r s.backend).1.2 ∧ ∃ answer, y.1 = .ok answer) := by
  -- what the layer reads after the answer is what there was before
  have hback {u t : Scene β} {a : Response} (hon : HandedOn r s u)
      (hnext : ask b r u = (.ok a, t)) : a = (b r s.backend).1.2 ∧ t.clock = s.clock
        ∧ t.store.maxItemSize = s.store.maxItemSize := by
    obtain ⟨ha, -, hclock, hshrinks, -⟩ := hon.answered hleft hnext
    exact ⟨Except.ok.inj ha, hclock, hshrinks.maxItemSize⟩
  cases hc with
  | hit hkey hget =>
    refine Or.inr ⟨?_, _, rfl⟩
    rintro ⟨key, seconds, body, hkey', hnone, -⟩
    rw [hkey] at hkey'
    cases hkey'
    rw [hget] at hnone
    cases hnone
  | interrupted hon hnext => cases (hon.answered hleft hnext).1
  | bypassed hkey hon hnext =>
    refine Or.inr ⟨?_, _, rfl⟩
    rintro ⟨key, seconds, body, hkey', -⟩
    rw [hkey] at hkey'
    cases hkey'
  | passed hkey hon hnext hlife =>
    obtain ⟨rfl, -, hmax⟩ := hback hon hnext
    refine Or.inr ⟨?_, _, rfl⟩
    rintro ⟨key, seconds, body, -, -, hlife', -⟩
    rw [hmax, hlife'] at hlife
    cases hlife
  | unbuffered hkey hon hnext hlife hread =>
    obtain ⟨rfl, -, hmax⟩ := hback hon hnext
    refine Or.inr ⟨?_, _, rfl⟩
    rintro ⟨key, seconds, body, -, -, -, hread', -⟩
    rw [hmax, hread'] at hread
    cases hread
  | @overflowed u t a key seconds body hkey hon hnext hlife hread hlater =>
    obtain ⟨rfl, hclock, hmax⟩ := hback hon hnext
    rw [hmax] at hlife hread
    rw [hclock, Instant.later?_eq_none_iff] at hlater
    exact Or.inl ⟨⟨key, seconds, body, hkey, hon.get_eq_none hkey, hlife, hread, hlater⟩,
      rfl⟩
  | @kept u t a key seconds body expires hkey hon hnext hlife hread hlater =>
    obtain ⟨rfl, hclock, hmax⟩ := hback hon hnext
    rw [hmax] at hlife
    refine Or.inr ⟨?_, _, rfl⟩
    rintro ⟨key', seconds', body', -, -, hlife', -, hlate⟩
    rw [hlife] at hlife'
    cases hlife'
    rw [← hclock, ← Instant.later?_eq_none_iff, hlater] at hlate
    cases hlate

/-! ## Every request of a run -/

/-- **A scene whose store counts right**, and which has no limit of time. -/
structure Counting (s : Scene β) : Prop where
  left : s.left = none
  order : s.store.InOrder

namespace Counting

variable {s : Scene β}

theorem enter (h : Counting s) (a : Arrival) : Counting (a.enter s) := ⟨h.left, h.order⟩

/-- A request that is handed on leaves the count right. -/
theorem handedOn {b : Backend β} {r : Request} {u t : Scene β}
    {x : Except Interrupt Response} (h : Counting s) (hon : HandedOn r s u)
    (hnext : ask b r u = (x, t)) : Counting t := by
  have hstore : t.store = u.store := by
    have := (Source.ofBackend b).store_answer r u
    rwa [show (Source.ofBackend b).answer r u = (x, t) from hnext] at this
  refine ⟨(hon.answered h.left hnext).2.1, ?_⟩
  rw [hstore]
  cases hon with
  | bypass => exact h.order
  | miss => exact h.order.get _ _

/-- **One request leaves the count right**, whatever course it takes. -/
theorem step {choose : Chooser} {b : Backend β} {r : Request}
    {y : Except Interrupt Response × Scene β} (h : Counting s)
    (hc : Course choose (ask b) r s y) : Counting y.2 := by
  cases hc with
  | hit => exact ⟨h.left, h.order⟩
  | interrupted hon hnext | bypassed _ hon hnext | passed _ hon hnext
  | overflowed _ hon hnext => exact h.handedOn hon hnext
  | unbuffered _ hon hnext =>
    have ht := h.handedOn hon hnext
    exact ⟨ht.left, ht.order⟩
  | kept _ hon hnext =>
    have ht := h.handedOn hon hnext
    exact ⟨ht.left, ht.order.insert choose _ _ _⟩

/-- **Every run of requests leaves it right.** -/
theorem run (h : Counting s) (files : Files.Disk) (b : Backend β)
    (arrivals : List (Chooser × Arrival)) :
    Counting (runCached files b arrivals s).2 := by
  induction arrivals generalizing s with
  | nil => exact h
  | cons d rest ih =>
    obtain ⟨choose, a⟩ := d
    exact ih ((h.enter a).step (caching_course files choose (ask b) a.request (a.enter s)))

end Counting

/-! ## The whole chain -/

namespace Exchange

/-- **An exchange that answers but for certain reasons.** -/
def AnswersBut (P : Interrupt → Prop) (x : Exchange β α) : Prop :=
  ∀ s i, (x s).1 = .error i → P i

namespace AnswersBut

variable {P : Interrupt → Prop}

theorem pure (a : α) : AnswersBut P (Pure.pure a : Exchange β α) := by
  rintro s i ⟨⟩

theorem bind {x : Exchange β α} {g : α → Exchange β γ} (hx : AnswersBut P x)
    (hg : ∀ a, AnswersBut P (g a)) : AnswersBut P (x >>= g) := by
  intro s i h
  rw [bind_apply] at h
  rcases hxs : x s with ⟨e | a, t⟩
  · rw [hxs] at h
    cases h
    exact hx s i (by rw [hxs])
  · rw [hxs] at h
    exact hg a t i h

theorem sleep (h : P .timeOver) (millis : Nat) :
    AnswersBut P (Exchange.sleep millis : Exchange β Unit) := by
  intro s i hs
  rw [sleep_apply] at hs
  by_cases htime : s.Allows millis
  · rw [if_pos htime] at hs
    cases hs
  · rw [if_neg htime] at hs
    cases hs
    exact h

theorem ask (h : P .timeOver) (b : Backend β) (r : Request) :
    AnswersBut P (Exchange.ask b r) :=
  fun _ i hs => (sleep h _).bind (fun _ => pure _) _ i (ask_apply b r _ ▸ hs)

end AnswersBut

end Exchange

section Layers

variable {P : Interrupt → Prop} (files : Files.Disk) (choose : Chooser)
variable {next : Handler (Exchange β)}

theorem answers_caching (h : P .clockOverflow) (hnext : ∀ r, AnswersBut P (next r))
    (r : Request) : AnswersBut P (caching (world files choose) next r) := by
  intro s i hi
  have hcourse := caching_course files choose next r s
  generalize caching (world files choose) next r s = y at hcourse hi
  cases hcourse with
  | interrupted hon hend => exact hnext r _ i (by rw [hend]; exact hi)
  | overflowed =>
    cases hi
    exact h
  | hit | bypassed | passed | unbuffered | kept => cases hi

/-- **A chain answers** whatever its innermost handler lets it, and what is
late as well. A cache may add one reason of its own. -/
theorem answers_serve (p : Plan) (h : p.cacheEnabled = true → P .clockOverflow)
    (hnext : ∀ r, AnswersBut (fun i => i = .timeOver ∨ P i) (next r)) (r : Request) :
    AnswersBut P (p.serve (world files choose) next r) := by
  have htunnel (r : Request) :
      AnswersBut (fun i => i = .timeOver ∨ P i) (tunnelRule next r) :=
    (hnext r).bind fun _ => .pure _
  have hinside (q : Request) : AnswersBut (fun i => i = .timeOver ∨ P i)
      (p.inside (world files choose) next q) := by
    unfold Plan.inside Plan.wrapIf
    cases hcache : p.cacheEnabled with
    | true => exact answers_caching files choose (Or.inr (h hcache)) htunnel q
    | false => exact htunnel q
  intro s i hi
  have hway := p.serve_journey files choose next r s
  generalize p.serve (world files choose) next r s = y at hway hi
  cases hway with
  | @abandoned q t _ hon hx =>
    cases hi
    exact (hinside q _ .clockOverflow (by rw [hx])).resolve_left nofun
  | overdue | refused | answered | unopened | late => cases hi

end Layers

/-! ## The answer -/

/-- **A cache answers every request but those whose response outlasts the
clock.** Let a backend respond as it likes, let the store be of any size, and
let any requests have come before: the next request is answered exactly if
the response that the backend has for it does not outlast the clock, and if
it is not answered, then for that reason. All other sums and differences are
in range: the store counts right, and so does whatever is inserted next.

The layers around the cache do not add another reason. Whatever layers a
plan has, an exchange through its chain ends without an answer at a cache
that has met such a response, or not at all. -/
theorem caching_answers_iff (b : Backend β) (files : Files.Disk)
    (capacity maxItemSize : Nat) (state : β) (past : List (Chooser × Arrival))
    (choose : Chooser) (a : Arrival) :
    let s := a.enter
      (runCached files b past (.start (.empty capacity maxItemSize) state)).2
    let ending := (caching (world files choose) (ask b) a.request s).1
    ((∃ answer, ending = .ok answer)
        ↔ ¬ Outlasts a.request s (b a.request s.backend).1.2)
      ∧ (∀ i, ending = .error i → i = .clockOverflow)
      ∧ s.store.InOrder
      ∧ (∀ key e, s.store.Fits e → s.store.InRange choose a.clock key e)
      ∧ ∀ (p : Plan) r t i, (p.serve (world files choose) (ask b) r t).1 = .error i →
        p.cacheEnabled = true ∧ i = .clockOverflow := by
  intro s ending
  have hstart : Counting (Scene.start (.empty capacity maxItemSize) state) :=
    ⟨rfl, .empty capacity maxItemSize⟩
  have hs : Counting s := (hstart.run files b past).enter a
  have hcourse := caching_course files choose (ask b) a.request s
  refine ⟨?_, ?_, hs.order, fun key e hfits => hs.order.inRange choose a.clock key hfits, ?_⟩
  · rcases hcourse.ending hs.left with ⟨hlate, hend⟩ | ⟨hlate, hend⟩
    · refine iff_of_false ?_ (not_not_intro hlate)
      rintro ⟨answer, hanswer⟩
      rw [show ending = _ from hend] at hanswer
      cases hanswer
    · exact iff_of_true hend hlate
  · intro i hi
    rcases hcourse.ending hs.left with ⟨-, hend⟩ | ⟨-, answer, hend⟩
    · rw [show ending = _ from hend] at hi
      cases hi
      rfl
    · rw [show ending = _ from hend] at hi
      cases hi
  · intro p r t i hi
    have hchain : AnswersBut (fun i => p.cacheEnabled = true ∧ i = .clockOverflow)
        (p.serve (world files choose) (ask b) r) :=
      answers_serve files choose p (fun hcache => ⟨hcache, rfl⟩)
        (AnswersBut.ask (Or.inl rfl) b) r
    exact hchain t i hi

/-- A backend that promises its page for as long as 64 bits can say. -/
def everlasting : Backend Unit := fun _ _ =>
  ((0, ⟨.ok, ⟨[⟨"cache-control",
    Bytes.ofString "public, max-age=18446744073709551615"⟩]⟩, Body.ofString "b"⟩), ())

/-- **A page that nobody gets**: the backend has answered, with a lifetime
that is a number of 64 bits, and the client has no answer. -/
theorem caching_everlasting :
    Outlasts (pageAfter 0).request ((pageAfter 0).enter (.start (.empty 1000 100) ()))
        (everlasting (pageAfter 0).request ()).1.2
      ∧ (caching (world .empty fun _ => 0) (ask everlasting) (pageAfter 0).request
          ((pageAfter 0).enter (.start (.empty 1000 100) ()))).1
        = .error .clockOverflow := by
  refine ⟨⟨"/page", 18446744073709551615, Bytes.ofString "b", by decide +kernel, rfl,
    by cbv, by decide +kernel, by decide⟩, by cbv⟩

end Gatehouse.Chain
