import Gatehouse.Config.Check
import Gatehouse.Proofs.Cache.Rule
import Gatehouse.Proofs.Chain.Outcome
import Gatehouse.Proofs.Chain.Transparency

/-!
# What may be stored comes back

Three sizes are compared before a response comes to lie in a store. The length
that it announces decides whether it may be stored at all, the bytes that are
read of its body may not be more than the limit, and the store refuses what is
larger than its limit or its capacity. The last of these can say no only where
the limit is above the capacity. A configuration that passes its check does not
have such limits, and so whatever may be stored and can be read is stored, also
where a store is full, because it gives up other entries for the new one
(`Keepable.eq_kept`).

Then it comes back. The next request with its key finds it, as long as it is
fresh, and whatever would answer behind the cache is not asked.
-/

namespace Gatehouse.Chain

open Http Cache Exchange

variable {β : Type}

theorem Same.symm {a a' : Response} (h : Same a a') : Same a' a :=
  ⟨h.status.symm, h.headers.symm, h.data.symm, h.complete.symm⟩

/-- **What answers behind a cache keeps its limits**, as everything does that
works on a store with its operations. Entries may come and go meanwhile. -/
structure KeepsLimits (next : Handler (Exchange β)) : Prop where
  capacity : ∀ r s, (next r s).2.store.capacity = s.store.capacity
  maxItemSize : ∀ r s, (next r s).2.store.maxItemSize = s.store.maxItemSize

/-- A backend does not see the store. -/
theorem KeepsLimits.ask (b : Backend β) : KeepsLimits (ask b) := by
  have hstore := (Source.ofBackend b).store_answer
  exact ⟨fun r s => congrArg Store.capacity (hstore r s),
    fun r s => congrArg Store.maxItemSize (hstore r s)⟩

/-- **A miss that leaves something to keep**: the request has a key and nothing
fresh is under it, the answer `a` has a lifetime, all of its body can be had
within the limit, and the clock reaches the end of the lifetime. -/
structure Keepable (next : Handler (Exchange β)) (r : Request) (s : Scene β) (key : String)
    (a : Response) (t : Scene β) (seconds : Nat) (body : Bytes) : Prop where
  key : key? r = some key
  answer : ∃ u, HandedOn r s u ∧ next r u = (.ok a, t)
  lifetime : lifetime? a s.store.maxItemSize = some seconds
  read : a.body.readWithin? s.store.maxItemSize = some body
  inTime : t.clock.later? seconds ≠ none

section Kept

variable {choose : Chooser} {next : Handler (Exchange β)} {r : Request} {s t : Scene β}
variable {y : Except Interrupt Response × Scene β}
variable {key : String} {a : Response} {seconds : Nat} {body : Bytes}

/-- The limits that are met when the answer comes are those from before. -/
theorem KeepsLimits.handedOn {u : Scene β} {x : Except Interrupt Response}
    (h : KeepsLimits next) (hon : HandedOn r s u) (hnext : next r u = (x, t)) :
    t.store.capacity = s.store.capacity ∧ t.store.maxItemSize = s.store.maxItemSize := by
  have hcapacity := h.capacity r u
  have hmaxItemSize := h.maxItemSize r u
  rw [hnext] at hcapacity hmaxItemSize
  exact ⟨hcapacity.trans hon.shrinks.capacity, hmaxItemSize.trans hon.shrinks.maxItemSize⟩

/-- The only way for such a miss is to be offered to the store. -/
theorem Keepable.eq_kept (hkeep : Keepable next r s key a t seconds body)
    (hlimits : KeepsLimits next) (hc : Course choose next r s y) :
    ∃ expires, t.clock.later? seconds = some expires
      ∧ y = (.ok (withOutcome { a with body := Body.ofBytes body } .miss),
        { t with
          store := (t.store.insert choose t.clock key (offered a body expires)).2
          log := .cacheStore key seconds
            (t.store.insert choose t.clock key (offered a body expires)).1 :: t.log }) := by
  obtain ⟨hkey, ⟨u, hon, hnext⟩, hlife, hread, hinTime⟩ := hkeep
  rw [← (hlimits.handedOn hon hnext).2] at hlife hread
  cases hc with
  | hit hkey' hget =>
    rw [hon.get_eq_none hkey'] at hget
    cases hget
  | interrupted hon' hnext' => cases (hon.same_answer hnext hon' hnext').1
  | bypassed hkey' =>
    rw [hkey] at hkey'
    cases hkey'
  | passed _ hon' hnext' hlife' =>
    obtain ⟨⟨⟩, rfl⟩ := hon.same_answer hnext hon' hnext'
    rw [hlife] at hlife'
    cases hlife'
  | unbuffered _ hon' hnext' _ hread' =>
    obtain ⟨⟨⟩, rfl⟩ := hon.same_answer hnext hon' hnext'
    rw [hread] at hread'
    cases hread'
  | overflowed _ hon' hnext' hlife' _ hlater =>
    obtain ⟨⟨⟩, rfl⟩ := hon.same_answer hnext hon' hnext'
    rw [hlife] at hlife'
    cases hlife'
    exact absurd hlater hinTime
  | kept hkey' hon' hnext' hlife' hread' hlater =>
    obtain ⟨⟨⟩, rfl⟩ := hon.same_answer hnext hon' hnext'
    rw [hkey] at hkey'
    rw [hlife] at hlife'
    rw [hread] at hread'
    cases hkey'
    cases hlife'
    cases hread'
    exact ⟨_, hlater, rfl⟩

/-- What was read within the limit fits, where the limit is within the
capacity. -/
theorem Keepable.fits (hkeep : Keepable next r s key a t seconds body)
    (hlimits : KeepsLimits next) (hsizes : s.store.maxItemSize ≤ s.store.capacity)
    (expires : Instant) : t.store.Fits (offered a body expires) := by
  obtain ⟨u, hon, hnext⟩ := hkeep.answer
  obtain ⟨hcapacity, hmaxItemSize⟩ := hlimits.handedOn hon hnext
  have hlength : body.length ≤ s.store.maxItemSize :=
    (readWithin?_eq_some_iff.mp hkeep.read).2
  refine ⟨?_, ?_⟩
  · rw [hmaxItemSize]
    exact hlength
  · rw [hcapacity]
    exact hlength.trans hsizes

end Kept

/-- **A fresh entry comes back**, to whoever has its key, and nobody is asked
for it. -/
theorem caching_of_fresh (files : Files.Disk) (choose : Chooser)
    (other : Handler (Exchange β)) {r : Request} {s : Scene β} {key : String} {e : Entry}
    (hkey : key? r = some key) (hfind : s.store.find? key = some e)
    (hfresh : e.isFresh s.clock = true) :
    let z := caching (world files choose) other r s
    z.1 = .ok (withOutcome e.toResponse .hit) ∧ z.2.store = s.store
      ∧ z.2.backend = s.backend := by
  intro z
  have hget := Store.get_eq_some_iff.mpr ⟨hfind, hfresh⟩
  have hcourse : Course choose other r s z := caching_course files choose other r s
  rw [hcourse.eq_of_hit hkey hget]
  exact ⟨rfl, rfl, rfl⟩

/-- **What may be stored is stored, and comes back.** If a miss leaves something
to keep, in a cache whose limit is within its capacity and whatever else the
cache has in it, then the answer is stored under the key. The next request with
the key, at any time before the lifetime is over, gets the same status, headers
and body, but for the header that says it is a hit. What answers behind the
cache is not asked and the store stays as it is.

The limits of every configuration that passes its check are such limits, where
the cache is switched on. -/
theorem caching_returns (files : Files.Disk) (choose : Chooser)
    (next : Handler (Exchange β)) (hlimits : KeepsLimits next) (r : Request) (s : Scene β)
    (hsizes : s.store.maxItemSize ≤ s.store.capacity)
    {key : String} {a : Response} {t : Scene β} {seconds : Nat} {body : Bytes}
    (hkeep : Keepable next r s key a t seconds body) :
    let y := caching (world files choose) next r s
    let first := withOutcome { a with body := Body.ofBytes body } .miss
    y.1 = .ok first
      ∧ y.2.log = .cacheStore key seconds true :: t.log
      ∧ (∀ (other : Handler (Exchange β)) (again : Arrival), key? again.request = some key →
        again.clock.nanos < t.clock.nanos + seconds * 1000000000 →
        let z := caching (world files choose) other again.request (again.enter y.2)
        ∃ answer, z.1 = .ok answer ∧ Same answer first
          ∧ answer.headers.values cacheHeader = [Bytes.ofString "hit"]
          ∧ z.2.backend = y.2.backend ∧ z.2.store = y.2.store)
      ∧ ∀ c : Config, c.problems = [] → c.cache.enabled = true →
        c.cache.maxItemSize ≤ c.cache.capacity := by
  intro y first
  obtain ⟨expires, hlater, hy⟩ :=
    hkeep.eq_kept hlimits (caching_course files choose next r s)
  have hy : y = _ := hy
  have hfits := hkeep.fits hlimits hsizes expires
  have hfind : y.2.store.find? key = some (offered a body expires) := by
    rw [hy]
    exact Store.find?_insert_of_fits choose t.clock hfits
  refine ⟨by rw [hy], ?_, fun other again hkey hbefore => ?_, fun c hc henabled => ?_⟩
  · rw [hy, Store.insert_of_fits choose t.clock hfits]
  · have hfresh : (offered a body expires).isFresh again.clock = true := by
      show decide (again.clock.nanos < expires.nanos) = true
      rw [Instant.nanos_of_later? hlater, decide_eq_true_eq]
      exact hbefore
    obtain ⟨hhit, hstore, hbackend⟩ := caching_of_fresh files choose other
      (s := again.enter y.2) hkey hfind hfresh
    exact ⟨_, hhit, (Same.withOutcome _ .hit).trans (Same.withOutcome _ .miss).symm,
      values_withOutcome _ .hit, hbackend, hstore⟩
  · unfold Config.problems Config.problemIf at hc
    simp only [List.append_eq_nil_iff, henabled, Bool.true_and] at hc
    have hsize := hc.1.2
    by_contra hover
    rw [if_pos (decide_eq_true (Nat.lt_of_not_le hover))] at hsize
    cases hsize

/-- A store of one byte, which is taken. -/
def takenStore : Store :=
  ⟨1, 1, 1, [("/old", ⟨.ok, Headers.empty, [7], ⟨90000000000⟩⟩)]⟩

/-- A page takes the place of another and comes back five seconds later, though
the backend has a new one by then. -/
theorem caching_returns_ticking :
    let h := caching (world .empty fun _ => 0) (ask ticking)
    let y := h (pageAfter 0).request ((pageAfter 0).enter (.start takenStore 0))
    let z := h (pageAfter 5).request ((pageAfter 5).enter y.2)
    y.2.log = [.cacheStore "/page" 60 true]
      ∧ ∃ answer, z.1 = .ok answer ∧ answer.body.data = [0]
        ∧ answer.headers.values cacheHeader = [Bytes.ofString "hit"]
        ∧ z.2.backend = 1 := by
  intro h y z
  have hkey : key? (pageAfter 0).request = some "/page" := by decide +kernel
  have hkeep : Keepable (ask ticking) (pageAfter 0).request
      ((pageAfter 0).enter (.start takenStore 0)) "/page" (ticking (pageAfter 0).request 0).1.2
      _ 60 [0] :=
    { key := hkey
      answer := ⟨_, .miss hkey (by decide +kernel), ask_of_left _ _ rfl⟩
      lifetime := by decide +kernel
      read := rfl
      inTime := by decide }
  obtain ⟨-, hlog, hback, -⟩ := caching_returns .empty (fun _ => 0) (ask ticking)
    (.ask ticking) _ _ (by decide) hkeep
  obtain ⟨answer, hanswer, hsame, hvalues, hbackend, -⟩ :=
    hback (ask ticking) (pageAfter 5) (by decide +kernel) (by decide)
  exact ⟨hlog, answer, hanswer, hsame.data, hvalues, hbackend.trans (by cbv)⟩

end Gatehouse.Chain
