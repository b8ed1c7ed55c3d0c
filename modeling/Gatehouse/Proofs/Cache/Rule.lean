import Mathlib
import Gatehouse.Cache.Instant
import Gatehouse.Cache.Rule

/-!
# When the rules of the cache say yes

Both rules of the cache are chains of conditions, of which every one can
say no. Here each is read from the other end: what all holds where the rule
has an answer.
-/

namespace Gatehouse.Cache

open Http Text

/-- **A request has a key** if it is a `GET` without credentials, and the
key is its host followed by its path and query. -/
theorem key?_eq_some_iff {r : Request} {key : String} :
    key? r = some key ↔ r.method = Method.get
      ∧ r.headers.contains "authorization" = false
      ∧ hostOf r ++ r.uri.targetOrRoot = key := by
  unfold key?
  by_cases hm : r.method = Method.get
  · by_cases ha : r.headers.contains "authorization" = true
    · simp [hm, ha]
    · simp [hm, Bool.eq_false_iff.mpr ha]
  · simp [hm]

/-- **A response has a lifetime** if every single condition holds, and the
lifetime is the one that its directives give. -/
theorem lifetime?_eq_some_iff {a : Response} {limit seconds : Nat} :
    lifetime? a limit = some seconds ↔ a.status = Status.ok
      ∧ a.headers.contains "set-cookie" = false
      ∧ (a.headers.values "vary").all isReusableVary = true
      ∧ ∃ n, announcedLength? a = some n ∧ n ≤ limit
      ∧ ∃ values, (a.headers.values "cache-control").mapM Bytes.text? = some values
        ∧ (Directives.ofValues values).lifetime? = some seconds := by
  unfold lifetime?
  simp only [guard, Option.pure_def, failure, Bool.not_eq_eq_eq_not, Bool.not_true,
    List.all_eq_true, Option.bind_eq_bind, Option.bind_eq_some_iff, ite_eq_left_iff,
    reduceCtorEq, imp_false, Decidable.not_not, Nat.not_le, Nat.not_lt, exists_const]

/-- A body can be had within a limit if it can be had and is not longer. -/
theorem readWithin?_eq_some_iff {b : Body} {limit : Nat} {bytes : Bytes} :
    b.readWithin? limit = some bytes
      ↔ b.read? = some bytes ∧ bytes.length ≤ limit := by
  unfold Body.readWithin? Body.read?
  by_cases hcomplete : b.complete = true
  · by_cases hlength : b.data.length ≤ limit
    · rw [if_pos hcomplete, if_pos hlength]
      constructor
      · rintro ⟨⟩
        exact ⟨rfl, hlength⟩
      · exact And.left
    · rw [if_pos hcomplete, if_neg hlength]
      constructor
      · exact nofun
      · rintro ⟨⟨⟩, h⟩
        exact absurd h hlength
  · rw [if_neg hcomplete]
    simp

/-- The instant some seconds later, where the clock reaches it. -/
theorem Instant.nanos_of_later? {t u : Instant} {seconds : Nat}
    (h : t.later? seconds = some u) : u.nanos = t.nanos + seconds * 1000000000 := by
  unfold Instant.later? at h
  split at h
  · cases h
    rfl
  · cases h

/-- **A lifetime leads past the end of the clock** if its last second is
none of the clock. -/
theorem Instant.later?_eq_none_iff {t : Instant} {seconds : Nat} :
    t.later? seconds = none ↔ maxSecs < t.secs + seconds := by
  unfold Instant.later?
  split
  · next h => simpa using h
  · next h => simpa using h

end Gatehouse.Cache
