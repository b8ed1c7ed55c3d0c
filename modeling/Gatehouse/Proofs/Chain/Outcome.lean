import Gatehouse.Proofs.Chain.Provenance

/-!
# What a cache says about a request

Whether a request bypasses the cache, is a hit or is a miss is settled when it
arrives, by its key and the store (`outcomeAt`). The cache says so twice, in a
counter and in a header of the response, at different places of the layer, and
a backend may say something in the same header.

The counter always tells the truth, because it is incremented before anything
can go wrong. The header does wherever it is set, and it is set on every way
through the layer but one. A response that is to be stored and whose body breaks
off, or grows longer than what is stored, is *lost* (`Lost`). What the client
gets in place of it says nothing about the cache.
-/

namespace Gatehouse.Chain

open Http Cache Exchange

variable {α γ β : Type}

/-! ## Outcomes -/

/-- **What becomes of a request at the cache.** -/
def outcomeAt (r : Request) (s : Scene β) : CacheOutcome :=
  match key? r with
  | none => .bypass
  | some key => if (s.store.get s.clock key).1.isSome then .hit else .miss

section Outcomes

variable {r : Request} {s u u' : Scene β} {key : String}

theorem outcomeAt_of_none (hkey : key? r = none) : outcomeAt r s = .bypass := by
  unfold outcomeAt
  rw [hkey]

theorem outcomeAt_of_hit {e : Entry} (hkey : key? r = some key)
    (hget : (s.store.get s.clock key).1 = some e) : outcomeAt r s = .hit := by
  unfold outcomeAt
  rw [hkey]
  simp only [hget]
  rfl

theorem outcomeAt_of_miss (hkey : key? r = some key)
    (hget : (s.store.get s.clock key).1 = none) : outcomeAt r s = .miss := by
  unfold outcomeAt
  rw [hkey]
  simp only [hget]
  rfl

/-- A bypass is a request without a key. -/
theorem outcomeAt_eq_bypass_iff : outcomeAt r s = .bypass ↔ key? r = none := by
  constructor
  · intro h
    cases hkey : key? r with
    | none => rfl
    | some key =>
      cases hget : (s.store.get s.clock key).1 with
      | none =>
        rw [outcomeAt_of_miss hkey hget] at h
        cases h
      | some e =>
        rw [outcomeAt_of_hit hkey hget] at h
        cases h
  · exact outcomeAt_of_none

/-- A hit is a request with something fresh under its key. -/
theorem outcomeAt_eq_hit_iff :
    outcomeAt r s = .hit
      ↔ ∃ key e, key? r = some key ∧ (s.store.get s.clock key).1 = some e := by
  constructor
  · intro h
    cases hkey : key? r with
    | none =>
      rw [outcomeAt_of_none hkey] at h
      cases h
    | some key =>
      cases hget : (s.store.get s.clock key).1 with
      | none =>
        rw [outcomeAt_of_miss hkey hget] at h
        cases h
      | some e => exact ⟨key, e, rfl, hget⟩
  · rintro ⟨key, e, hkey, hget⟩
    exact outcomeAt_of_hit hkey hget

/-- A request is handed on in one scene. -/
theorem HandedOn.unique (h : HandedOn r s u) (h' : HandedOn r s u') : u = u' := by
  cases h with
  | bypass hkey =>
    cases h' with
    | bypass => rfl
    | miss hkey' =>
      rw [hkey] at hkey'
      cases hkey'
  | miss hkey =>
    cases h' with
    | bypass hkey' =>
      rw [hkey] at hkey'
      cases hkey'
    | miss hkey' =>
      rw [hkey] at hkey'
      cases hkey'
      rfl

/-- What comes back of a request that is handed on is one thing. -/
theorem HandedOn.same_answer {next : Handler (Exchange β)} {t t' : Scene β}
    {x x' : Except Interrupt Response} (h : HandedOn r s u) (hnext : next r u = (x, t))
    (h' : HandedOn r s u') (hnext' : next r u' = (x', t')) : x = x' ∧ t = t' := by
  rw [← h.unique h', hnext] at hnext'
  exact Prod.mk.inj hnext'

/-- Before it is handed on, it has been counted. -/
theorem HandedOn.metrics (h : HandedOn r s u) :
    u.metrics = s.metrics.increment (.cacheLookups (outcomeAt r s)) := by
  cases h with
  | bypass hkey => rw [outcomeAt_of_none hkey]
  | miss hkey hget => rw [outcomeAt_of_miss hkey hget]

end Outcomes

/-! ## What is behind -/

/-- The reports of requests in a log, the latest first. -/
def requestLines (log : List Event) : List RequestLine :=
  log.filterMap fun
    | .request l => some l
    | _ => none

namespace Exchange

/-- **An exchange without accounts**: it counts nothing, and reports no
requests. -/
structure Unaccounted (x : Exchange β α) : Prop where
  metrics : ∀ s, (x s).2.metrics = s.metrics
  requestLines : ∀ s, requestLines (x s).2.log = requestLines s.log

namespace Unaccounted

theorem pure (a : α) : Unaccounted (Pure.pure a : Exchange β α) :=
  ⟨fun _ => rfl, fun _ => rfl⟩

theorem bind {x : Exchange β α} {g : α → Exchange β γ} (hx : Unaccounted x)
    (hg : ∀ a, Unaccounted (g a)) : Unaccounted (x >>= g) := by
  have hrun (s : Scene β) : ((x >>= g) s).2 = (x s).2
      ∨ ∃ a, ((x >>= g) s).2 = (g a (x s).2).2 := by
    rw [bind_apply]
    rcases x s with ⟨_ | a, t⟩
    · exact Or.inl rfl
    · exact Or.inr ⟨a, rfl⟩
  constructor
  · intro s
    rcases hrun s with h | ⟨a, h⟩
    · rw [h, hx.metrics]
    · rw [h, (hg a).metrics, hx.metrics]
  · intro s
    rcases hrun s with h | ⟨a, h⟩
    · rw [h, hx.requestLines]
    · rw [h, (hg a).requestLines, hx.requestLines]

theorem sleep (millis : Nat) : Unaccounted (Exchange.sleep millis : Exchange β Unit) := by
  have hrun (s : Scene β) : (Exchange.sleep millis s).2.metrics = s.metrics
      ∧ (Exchange.sleep millis s).2.log = s.log := by
    obtain ⟨left, hsleep⟩ := exists_sleep_snd millis s
    rw [hsleep]
    exact ⟨rfl, rfl⟩
  exact ⟨fun s => (hrun s).1, fun s => by rw [(hrun s).2]⟩

theorem ask (b : Backend β) (r : Request) : Unaccounted (Exchange.ask b r) := by
  have hrest (s : Scene β) := (sleep (β := β) (b r s.backend).1.1).bind
    fun _ => pure (b r s.backend).1.2
  refine ⟨fun s => ?_, fun s => ?_⟩
  · rw [ask_apply, (hrest s).metrics]
  · rw [ask_apply, (hrest s).requestLines]

end Unaccounted

end Exchange

/-- **What answers without accounts.** -/
structure Responder (β : Type) where
  answer : Handler (Exchange β)
  unaccounted : ∀ r, Unaccounted (answer r)

/-- A backend keeps no accounts. -/
def Responder.ofBackend (b : Backend β) : Responder β where
  answer := ask b
  unaccounted := .ask b

/-! ## What is said -/

/-- **A response is lost on its way into the store**: the request is a miss, what
comes back may be stored, and its body cannot be had. -/
def Lost (next : Handler (Exchange β)) (r : Request) (s : Scene β) : Prop :=
  ∃ key u a t, key? r = some key ∧ HandedOn r s u ∧ next r u = (.ok a, t)
    ∧ lifetime? a t.store.maxItemSize ≠ none
    ∧ a.body.readWithin? t.store.maxItemSize = none

namespace Course

variable {choose : Chooser} {next : Handler (Exchange β)} {r : Request} {s t : Scene β}
variable {y : Except Interrupt Response × Scene β} {a : Response}

/-- **The lookup is counted once, as what it is**, whatever else happens. -/
theorem metrics {o : Responder β} (hc : Course choose o.answer r s y) :
    y.2.metrics = s.metrics.increment (.cacheLookups (outcomeAt r s)) := by
  have hback {u t : Scene β} {x : Except Interrupt Response} (hon : HandedOn r s u)
      (hnext : o.answer r u = (x, t)) :
      t.metrics = s.metrics.increment (.cacheLookups (outcomeAt r s)) := by
    have ht := (o.unaccounted r).metrics u
    rw [hnext] at ht
    rw [ht, hon.metrics]
  cases hc with
  | hit hkey hget => rw [outcomeAt_of_hit hkey hget]
  | interrupted hon hnext | bypassed _ hon hnext | passed _ hon hnext
  | unbuffered _ hon hnext | overflowed _ hon hnext | kept _ hon hnext =>
    have ht := hback hon hnext
    exact ht

/-- What is lost is answered without a word about the cache. -/
theorem eq_of_lost (hc : Course choose next r s y) (hlost : Lost next r s) :
    y.1 = .ok (.bare .badGateway) := by
  obtain ⟨key, u, a, t, hkey, hon, hnext, hlife, hread⟩ := hlost
  cases hc with
  | hit hkey' hget =>
    rw [hon.get_eq_none hkey'] at hget
    cases hget
  | interrupted hon' hnext' => cases (hon.same_answer hnext hon' hnext').1
  | bypassed hkey' =>
    rw [hkey] at hkey'
    cases hkey'
  | passed _ hon' hnext' hlife' =>
    obtain ⟨⟨⟩, rfl⟩ := hon.same_answer hnext hon' hnext'
    exact absurd hlife' hlife
  | unbuffered => rfl
  | overflowed _ hon' hnext' _ hread' | kept _ hon' hnext' _ hread' =>
    obtain ⟨⟨⟩, rfl⟩ := hon.same_answer hnext hon' hnext'
    rw [hread] at hread'
    cases hread'

/-- What is not lost is answered with the outcome, and with no other. -/
theorem values_of_not_lost (hc : Course choose next r s (.ok a, t))
    (hlost : ¬ Lost next r s) :
    a.headers.values cacheHeader = [Bytes.ofString (outcomeAt r s).name] := by
  have hmiss {key : String} {u : Scene β} (hkey : key? r = some key)
      (hon : HandedOn r s u) : outcomeAt r s = .miss :=
    outcomeAt_of_miss hkey (hon.get_eq_none hkey)
  cases hc with
  | hit hkey hget => rw [values_withOutcome, outcomeAt_of_hit hkey hget]
  | bypassed hkey => rw [values_withOutcome, outcomeAt_of_none hkey]
  | passed hkey hon | kept hkey hon => rw [values_withOutcome, hmiss hkey hon]
  | unbuffered hkey hon hnext hlife hread =>
    exact absurd ⟨_, _, _, _, hkey, hon, hnext, by rw [hlife]; exact nofun, hread⟩ hlost

end Course

/-- **What a cache says about a request**, in every scene and whatever answers
behind it.

The counter that is incremented, once and no other, is the one of the outcome.
The outcome is a bypass where there is no key and a hit where something fresh is
found, which then is the answer, without anybody having been asked; otherwise it
is a miss. The response has the
outcome in its header, and nothing else, exactly if it has not been lost on its
way into the store. If it has been, the header is missing. -/
theorem caching_outcome (o : Responder β) (files : Files.Disk) (choose : Chooser)
    (r : Request) (s : Scene β) :
    let y := caching (world files choose) o.answer r s
    y.2.metrics = s.metrics.increment (.cacheLookups (outcomeAt r s))
      ∧ (outcomeAt r s = .bypass ↔ key? r = none)
      ∧ (outcomeAt r s = .hit
        ↔ ∃ key e, key? r = some key ∧ (s.store.get s.clock key).1 = some e)
      ∧ (∀ key e, key? r = some key → (s.store.get s.clock key).1 = some e →
        y.1 = .ok (withOutcome e.toResponse .hit) ∧ y.2.backend = s.backend)
      ∧ (∀ a, y.1 = .ok a →
        (a.headers.values cacheHeader = [Bytes.ofString (outcomeAt r s).name]
          ↔ ¬ Lost o.answer r s))
      ∧ (Lost o.answer r s → y.1 = .ok (.bare .badGateway)) := by
  intro y
  have hcourse : Course choose o.answer r s y := caching_course files choose o.answer r s
  have hanswered (a : Response) (ha : y.1 = .ok a) :
      Course choose o.answer r s (.ok a, y.2) :=
    (show y = (.ok a, y.2) from Prod.ext ha rfl) ▸ hcourse
  refine ⟨hcourse.metrics, outcomeAt_eq_bypass_iff, outcomeAt_eq_hit_iff,
    fun key e hkey hget => ?_, fun a ha => ⟨fun hvalues hlost => ?_, ?_⟩, hcourse.eq_of_lost⟩
  · rw [hcourse.eq_of_hit hkey hget]
    exact ⟨rfl, rfl⟩
  · rw [hcourse.eq_of_lost hlost] at ha
    cases ha
    cases hvalues
  · exact (hanswered a ha).values_of_not_lost

/-- A backend that says of every response that it is a hit. -/
def boasting : Backend Unit := fun _ _ =>
  ((0, ⟨.ok, ⟨[⟨cacheHeader, Bytes.ofString "hit"⟩, ⟨cacheHeader, Bytes.ofString "hit"⟩]⟩,
    Body.ofString "page"⟩), ())

/-- The first request of all is a miss, whatever its backend says. -/
theorem caching_outcome_boasting :
    let s : Scene Unit := (pageAfter 0).enter (.start (.empty 1000 100) ())
    ¬ Lost (Responder.ofBackend boasting).answer (pageAfter 0).request s
      ∧ ∃ a, (caching (world .empty fun _ => 0) (Responder.ofBackend boasting).answer
          (pageAfter 0).request s).1 = .ok a
        ∧ a.headers.values cacheHeader = [Bytes.ofString "miss"] := by
  intro s
  obtain ⟨-, -, -, -, hheader, hlost⟩ := caching_outcome (.ofBackend boasting) .empty
    (fun _ => 0) (pageAfter 0).request s
  have hanswer : (caching (world .empty fun _ => 0) (Responder.ofBackend boasting).answer
      (pageAfter 0).request s).1
      = .ok ⟨.ok, ⟨[⟨cacheHeader, Bytes.ofString "miss"⟩]⟩, Body.ofString "page"⟩ := by
    decide +kernel
  have hkept : ¬ Lost (Responder.ofBackend boasting).answer (pageAfter 0).request s := by
    intro h
    have hbare := (hlost h).symm.trans hanswer
    exact absurd hbare (by decide +kernel)
  have houtcome : outcomeAt (pageAfter 0).request s = .miss := by decide +kernel
  refine ⟨hkept, _, hanswer, ?_⟩
  rw [(hheader _ hanswer).mpr hkept, houtcome]
  rfl

/-- A backend whose responses may be stored and break off. -/
def breaking : Backend Unit := fun _ _ =>
  ((0, ⟨.ok, ⟨[⟨"cache-control", Bytes.ofString "public, max-age=60"⟩,
    ⟨"content-length", Bytes.ofString "3"⟩]⟩, ⟨Bytes.ofString "abc", false, false, []⟩⟩), ())

/-- **A response without an outcome.** The request is counted as a miss, and the
client is told nothing. -/
theorem caching_silent :
    let s : Scene Unit := (pageAfter 0).enter (.start (.empty 1000 100) ())
    let y := caching (world .empty fun _ => 0) (ask breaking) (pageAfter 0).request s
    y.2.metrics.count (.cacheLookups .miss) = 1
      ∧ ∃ a, y.1 = .ok a ∧ a.headers.values cacheHeader = [] :=
  ⟨by decide +kernel, .bare .badGateway, by decide +kernel, rfl⟩

end Gatehouse.Chain
