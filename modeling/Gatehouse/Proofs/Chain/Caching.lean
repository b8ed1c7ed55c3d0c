import Gatehouse.Chain.CacheLayer
import Gatehouse.Proofs.Cache.Store
import Gatehouse.Proofs.Chain.Run

/-!
# What a request comes to at the cache

A request is answered from the store, or it is handed on, and what comes
back is passed on, kept, or lost. `Course` lists the ways, each with
everything that leads to it and everything it leaves behind, and
`caching_course` says that there is no other. What is to be known about the
cache layer is read off from there.
-/

namespace Gatehouse.Chain

open Http Cache Exchange

variable {β : Type}

/-! ## Handing on -/

/-- **The scene in which a request is handed on.** The lookup is counted,
and what it met stale is gone. -/
inductive HandedOn (r : Request) (s : Scene β) : Scene β → Prop
  /-- The request bypasses the cache. -/
  | bypass (hkey : key? r = none) :
      HandedOn r s { s with metrics := s.metrics.increment (.cacheLookups .bypass) }
  /-- The store has no fresh entry for it. -/
  | miss {key : String} (hkey : key? r = some key)
      (hget : (s.store.get s.clock key).1 = none) :
      HandedOn r s
        { s with
          store := (s.store.get s.clock key).2
          metrics := s.metrics.increment (.cacheLookups .miss) }

namespace HandedOn

variable {r : Request} {s u : Scene β}

theorem shrinks (h : HandedOn r s u) : s.store.Shrinks u.store := by
  cases h with
  | bypass => exact .refl _
  | miss => exact Store.shrinks_get _ _ _

theorem backend (h : HandedOn r s u) : u.backend = s.backend := by
  cases h <;> rfl

theorem millis (h : HandedOn r s u) : u.millis = s.millis := by
  cases h <;> rfl

/-- Where a request is handed on, there was nothing fresh under its key. -/
theorem get_eq_none {key : String} (h : HandedOn r s u) (hkey : key? r = some key) :
    (s.store.get s.clock key).1 = none := by
  cases h with
  | bypass hnone =>
    rw [hnone] at hkey
    cases hkey
  | miss hkey' hget =>
    rw [hkey] at hkey'
    cases hkey'
    exact hget

end HandedOn

/-! ## The ways through the layer -/

/-- The entry that a response is offered as. -/
def offered (a : Response) (body : Bytes) (expires : Instant) : Entry :=
  ⟨a.status, a.headers, body, expires⟩

/-- **What a request comes to at the cache**: the ending of its exchange,
and the scene that it leaves. -/
inductive Course (choose : Chooser) (next : Handler (Exchange β)) (r : Request)
    (s : Scene β) : Except Interrupt Response × Scene β → Prop
  /-- It is answered from the store. -/
  | hit {key : String} {e : Entry} (hkey : key? r = some key)
      (hget : (s.store.get s.clock key).1 = some e) :
      Course choose next r s
        (.ok (withOutcome e.toResponse .hit),
          { s with
            log := .cacheHit key :: s.log
            metrics := s.metrics.increment (.cacheLookups .hit) })
  /-- It is handed on, and no answer comes back. -/
  | interrupted {u t : Scene β} {i : Interrupt} (hon : HandedOn r s u)
      (hnext : next r u = (.error i, t)) : Course choose next r s (.error i, t)
  /-- It is not for the cache at all. -/
  | bypassed {u t : Scene β} {a : Response} (hkey : key? r = none)
      (hon : HandedOn r s u) (hnext : next r u = (.ok a, t)) :
      Course choose next r s (.ok (withOutcome a .bypass), t)
  /-- The answer may not be stored. -/
  | passed {u t : Scene β} {a : Response} {key : String} (hkey : key? r = some key)
      (hon : HandedOn r s u) (hnext : next r u = (.ok a, t))
      (hlife : lifetime? a t.store.maxItemSize = none) :
      Course choose next r s (.ok (withOutcome a .miss), t)
  /-- The answer may be stored, but its body cannot be had. -/
  | unbuffered {u t : Scene β} {a : Response} {key : String} {seconds : Nat}
      (hkey : key? r = some key) (hon : HandedOn r s u)
      (hnext : next r u = (.ok a, t))
      (hlife : lifetime? a t.store.maxItemSize = some seconds)
      (hread : a.body.readWithin? t.store.maxItemSize = none) :
      Course choose next r s
        (.ok (.bare .badGateway), { t with log := .cacheUnbuffered key :: t.log })
  /-- The answer would be fresh for longer than there is time. -/
  | overflowed {u t : Scene β} {a : Response} {key : String} {seconds : Nat}
      {body : Bytes} (hkey : key? r = some key) (hon : HandedOn r s u)
      (hnext : next r u = (.ok a, t))
      (hlife : lifetime? a t.store.maxItemSize = some seconds)
      (hread : a.body.readWithin? t.store.maxItemSize = some body)
      (hlater : t.clock.later? seconds = none) :
      Course choose next r s (.error .clockOverflow, t)
  /-- The answer is offered to the store. -/
  | kept {u t : Scene β} {a : Response} {key : String} {seconds : Nat}
      {body : Bytes} {expires : Instant} (hkey : key? r = some key)
      (hon : HandedOn r s u) (hnext : next r u = (.ok a, t))
      (hlife : lifetime? a t.store.maxItemSize = some seconds)
      (hread : a.body.readWithin? t.store.maxItemSize = some body)
      (hlater : t.clock.later? seconds = some expires) :
      Course choose next r s
        (.ok (withOutcome { a with body := Body.ofBytes body } .miss),
          { t with
            store := (t.store.insert choose t.clock key (offered a body expires)).2
            log := .cacheStore key seconds
              (t.store.insert choose t.clock key (offered a body expires)).1 :: t.log })

/-- **Every request takes one of these courses.** -/
theorem caching_course (files : Files.Disk) (choose : Chooser)
    (next : Handler (Exchange β)) (r : Request) (s : Scene β) :
    Course choose next r s (caching (world files choose) next r s) := by
  unfold caching
  cases hkey : key? r with
  | none =>
    have hon : HandedOn r s _ := .bypass hkey
    dsimp only
    rw [bind_apply_ok (count_apply files choose _ s), bind_apply]
    rcases hnext : next r _ with ⟨_ | a, t⟩
    · exact .interrupted hon hnext
    · exact .bypassed hkey hon hnext
  | some key =>
    dsimp only
    rw [bind_apply_ok (now_apply files choose s),
      bind_apply_ok (onStore_apply files choose _ s)]
    cases hget : (s.store.get s.clock key).1 with
    | some e =>
      rw [Store.get_of_eq_some hget]
      exact .hit hkey hget
    | none =>
      have hon : HandedOn r s _ := .miss hkey hget
      dsimp only
      rw [bind_apply_ok (count_apply files choose _ _), bind_apply]
      rcases hnext : next r _ with ⟨_ | a, t⟩
      · exact .interrupted hon hnext
      · dsimp only
        rw [bind_apply_ok (onStore_apply files choose _ t)]
        dsimp only
        cases hlife : lifetime? a t.store.maxItemSize with
        | none => exact .passed hkey hon hnext hlife
        | some seconds =>
          dsimp only
          unfold keep
          cases hread : a.body.readWithin? t.store.maxItemSize with
          | none => exact .unbuffered hkey hon hnext hlife hread
          | some body =>
            dsimp only
            rw [bind_apply_ok (now_apply files choose _)]
            cases hlater : t.clock.later? seconds with
            | none => exact .overflowed hkey hon hnext hlife hread hlater
            | some expires => exact .kept hkey hon hnext hlife hread hlater

/-! ## Hits -/

/-- A response with an outcome has that outcome alone. -/
theorem values_withOutcome (a : Response) (o : CacheOutcome) :
    (withOutcome a o).headers.values cacheHeader = [Bytes.ofString o.name] := by
  unfold withOutcome Response.withHeader
  rw [Headers.values_insert, if_pos rfl]

/-- **A fresh entry is the answer** to every request with its key, and apart
from the records that is all there is to it. -/
theorem Course.eq_of_hit {choose : Chooser} {next : Handler (Exchange β)} {r : Request}
    {s : Scene β} {y : Except Interrupt Response × Scene β} {key : String} {e : Entry}
    (hc : Course choose next r s y) (hkey : key? r = some key)
    (hget : (s.store.get s.clock key).1 = some e) :
    y = (.ok (withOutcome e.toResponse .hit),
      { s with
        log := .cacheHit key :: s.log
        metrics := s.metrics.increment (.cacheLookups .hit) }) := by
  cases hc with
  | hit hkey' hget' =>
    rw [hkey] at hkey'
    cases hkey'
    rw [hget] at hget'
    cases hget'
    rfl
  | interrupted hon | bypassed _ hon | passed _ hon | unbuffered _ hon
  | overflowed _ hon | kept _ hon =>
    rw [hon.get_eq_none hkey] at hget
    cases hget

theorem Course.eq_hit {choose : Chooser} {next : Handler (Exchange β)} {r : Request}
    {s : Scene β} {y : Except Interrupt Response × Scene β} {key : String} {e : Entry}
    (hc : Course choose next r s y) (hkey : key? r = some key)
    (hget : (s.store.get s.clock key).1 = some e) :
    y.1 = .ok (withOutcome e.toResponse .hit) := by
  rw [hc.eq_of_hit hkey hget]

/-- **A response that says it is a hit is one**: it was found in the store,
and neither the store nor anything behind the cache has noticed the
request. -/
theorem Course.hit_of_values {choose : Chooser} {next : Handler (Exchange β)}
    {r : Request} {s t : Scene β} {a : Response}
    (hc : Course choose next r s (.ok a, t))
    (hvalues : a.headers.values cacheHeader = [Bytes.ofString "hit"]) :
    ∃ key e, key? r = some key ∧ (s.store.get s.clock key).1 = some e
      ∧ a = withOutcome e.toResponse .hit ∧ t.store = s.store
      ∧ t.backend = s.backend := by
  have hbypass : Bytes.ofString CacheOutcome.bypass.name ≠ Bytes.ofString "hit" := by
    decide +kernel
  have hmiss : Bytes.ofString CacheOutcome.miss.name ≠ Bytes.ofString "hit" := by
    decide +kernel
  cases hc with
  | hit hkey hget => exact ⟨_, _, hkey, hget, rfl, rfl, rfl⟩
  | bypassed =>
    rw [values_withOutcome] at hvalues
    exact absurd (List.singleton_inj.mp hvalues) hbypass
  | unbuffered => cases hvalues
  | passed | kept =>
    rw [values_withOutcome] at hvalues
    exact absurd (List.singleton_inj.mp hvalues) hmiss

end Gatehouse.Chain
