import Gatehouse.Text.Ascii

/-!
# Metrics

The gate counts requests, verdicts, failed lookups and what became of
requests at the cache. A counter exists from its first increment on, and
the exposition shows one line for each counter that exists.
-/

namespace Gatehouse

open Text

/-- What became of a request at the cache. -/
inductive CacheOutcome where
  | hit
  | miss
  | bypass
deriving DecidableEq, Inhabited

/-- The name of an outcome, in headers and counters. -/
def CacheOutcome.name : CacheOutcome → String
  | .hit => "hit"
  | .miss => "miss"
  | .bypass => "bypass"

/-- Something that is counted. -/
inductive Counter where
  /-- Answered requests, by method and status. -/
  | requests (method : String) (status : Nat)
  /-- Verdicts of the country filter, by label. -/
  | decisions (label : String)
  /-- Country lookups that failed. -/
  | lookupErrors
  /-- Requests that reached the cache, by outcome. -/
  | cacheLookups (outcome : CacheOutcome)
  /-- Measurements of how long requests took. -/
  | durations
deriving DecidableEq, Inhabited

/-- A counter as the exposition names it. -/
def Counter.name : Counter → String
  | .requests method status =>
    "proxy_requests_total\x7bmethod=\"" ++ method ++ "\",status=\""
      ++ toString status ++ "\"\x7d"
  | .decisions label =>
    "geoip_decisions_total\x7bdecision=\"" ++ label ++ "\"\x7d"
  | .lookupErrors => "geoip_lookup_errors_total"
  | .cacheLookups outcome =>
    "proxy_cache_lookups_total\x7bresult=\"" ++ outcome.name ++ "\"\x7d"
  | .durations => "proxy_request_duration_seconds_count"

/-- The counters that were ever incremented, with their values. -/
structure Metrics where
  counts : List (Counter × Nat)
deriving DecidableEq, Inhabited

namespace Metrics

/-- No counters. -/
def empty : Metrics := ⟨[]⟩

/-- The value of a counter; one that was never incremented stands at
zero. -/
def count (m : Metrics) (c : Counter) : Nat :=
  ((m.counts.find? (·.1 = c)).map (·.2)).getD 0

/-- Adds one to a counter in a list of counters. -/
def bump (c : Counter) : List (Counter × Nat) → List (Counter × Nat)
  | [] => [(c, 1)]
  | (d, n) :: rest => if d = c then (d, n + 1) :: rest else (d, n) :: bump c rest

/-- Adds one to a counter. -/
def increment (m : Metrics) (c : Counter) : Metrics := ⟨bump c m.counts⟩

@[simp] theorem count_empty (c : Counter) : empty.count c = 0 := rfl

/-- An increment shows in its own counter and in no other. -/
theorem count_increment (m : Metrics) (c d : Counter) :
    (m.increment c).count d = m.count d + if c = d then 1 else 0 := by
  obtain ⟨counts⟩ := m
  simp only [count, increment]
  induction counts with
  | nil => by_cases h : c = d <;> simp [bump, h]
  | cons p rest ih =>
    obtain ⟨e, n⟩ := p
    by_cases hc : e = c
    · subst hc
      by_cases hd : e = d <;> simp [bump, hd]
    · by_cases hd : e = d
      · subst hd
        simp [bump, hc, Ne.symm hc]
      · simpa [bump, hc, hd] using ih

/-- The place of a line among others, by code points. -/
def insertLine (line : String) : List String → List String
  | [] => [line]
  | l :: ls =>
    match compareCodes line.toList l.toList with
    | .gt => l :: insertLine line ls
    | _ => line :: l :: ls

/-- **The exposition**: a line for each counter, sorted. -/
def lines (m : Metrics) : List String :=
  (m.counts.map fun (c, n) => c.name ++ " " ++ toString n).foldl
    (fun sorted line => insertLine line sorted) []

end Metrics

end Gatehouse
