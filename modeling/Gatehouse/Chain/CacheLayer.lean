import Gatehouse.Cache.Rule
import Gatehouse.Chain.World

/-!
# The cache in front of the backend

Requests with a key are answered from the store where it has a fresh entry.
Otherwise the response of the backend is passed on, and kept when it may
be: it is read into memory first, so that only complete bodies are stored.
Every response says in `X-Cache` what became of it.
-/

namespace Gatehouse.Chain

open Http Cache

/-- The header that tells what the cache did. -/
def cacheHeader : String := "x-cache"

/-- The response with the outcome at the cache. -/
def withOutcome (a : Response) (o : CacheOutcome) : Response :=
  a.withHeader cacheHeader (Bytes.ofString o.name)

/-- Offers a response to the store, for a number of seconds. -/
def keep {m : Type → Type} [Monad m] (w : World m) (key : String)
    (a : Response) (seconds : Nat) (limit : Nat) : m Response := do
  match a.body.readWithin? limit with
  | none =>
    w.report (.cacheUnbuffered key)
    return .bare .badGateway
  | some body =>
    let now ← w.now
    match now.later? seconds with
    | none => w.abandon
    | some expires =>
      let stored ← w.onStore fun s =>
        s.insert w.choose now key ⟨a.status, a.headers, body, expires⟩
      w.report (.cacheStore key seconds stored)
      return withOutcome { a with body := Body.ofBytes body } .miss

/-- **Answers from the store** where it can, and stores what it may. -/
def caching {m : Type → Type} [Monad m] (w : World m) (next : Handler m) :
    Handler m := fun r => do
  match key? r with
  | none =>
    w.count (.cacheLookups .bypass)
    return withOutcome (← next r) .bypass
  | some key =>
    let now ← w.now
    match ← w.onStore fun s => s.get now key with
    | some e =>
      w.report (.cacheHit key)
      w.count (.cacheLookups .hit)
      return withOutcome e.toResponse .hit
    | none =>
      w.count (.cacheLookups .miss)
      let a ← next r
      let limit ← w.onStore fun s => (s.maxItemSize, s)
      match lifetime? a limit with
      | none => return withOutcome a .miss
      | some seconds => keep w key a seconds limit

end Gatehouse.Chain
