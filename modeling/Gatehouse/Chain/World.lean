import Gatehouse.Cache.Store
import Gatehouse.Files
import Gatehouse.Report.Event
import Gatehouse.Report.Metrics

/-!
# What a chain asks of the world

Layers are written once, for any monad `m`, over a `World m`: a record of
everything they may do beside computing. A running server fills it with
effects of the operating system; `Exchange` fills it with a state that can
be looked at.

The store is reached through `onStore` alone, one step at a time, so that
requests in flight at the same time can share it.
-/

namespace Gatehouse.Chain

open Http Cache

/-- Answers requests. -/
abbrev Handler (m : Type → Type) := Request → m Response

/-- **The capabilities of a layer.** -/
structure World (m : Type → Type) where
  /-- Reads the clock that judges freshness. -/
  now : m Instant
  /-- Milliseconds since the first of January 1970. -/
  millis : m Nat
  /-- Updates the store in one step. -/
  onStore : {α : Type} → (Store → α × Store) → m α
  /-- Picks the entries to give up. -/
  choose : Chooser
  /-- Reports an event. -/
  report : Event → m Unit
  /-- Increments a counter. -/
  count : Counter → m Unit
  /-- Opens a path. -/
  openFile : String → m Files.Opened
  /-- Runs something for at most so many seconds. -/
  within : Nat → m Response → m (Option Response)
  /-- Runs the answering of a request in a span of the trace. A world without
  a trace just runs it. -/
  inSpan : Request → m Response → m Response := fun _ answering => answering
  /-- Gives the exchange up without an answer. -/
  abandon : {α : Type} → m α

end Gatehouse.Chain
