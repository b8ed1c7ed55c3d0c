import Gatehouse.Chain.World

/-!
# Exchanges as pure computations

An `Exchange β` is a computation over everything that requests share –
the store, the counters, the events so far, the clocks – and over the state
`β` of a backend. It can end early in two ways, and keeps its effects when
it does: a request that runs out of time may have been counted and may have
reached the backend.

Time passes only where someone sleeps: while a backend is at work, and while
a file is opened. What is left of the time of the current request is part of
the state, so that whoever takes too long is cut off where it sleeps and the
layer that set the limit sees it.
-/

namespace Gatehouse.Chain

open Http Cache

/-- Why an exchange ended before its answer. -/
inductive Interrupt where
  /-- The time of the request is over. -/
  | timeOver
  /-- A lifetime leads past the end of the clock. -/
  | clockOverflow
deriving DecidableEq, Inhabited

/-- What requests of one chain share. -/
structure Scene (β : Type) where
  store : Store
  metrics : Metrics
  /-- The events so far, the latest first. -/
  log : List Event
  /-- The clock that judges freshness. -/
  clock : Instant
  /-- Milliseconds since the first of January 1970. -/
  millis : Nat
  /-- Milliseconds that the current request has left; without a limit
  there is no number. -/
  left : Option Nat
  /-- The state of the backend. -/
  backend : β

/-- A computation over a scene that may be interrupted. -/
abbrev Exchange (β : Type) := ExceptT Interrupt (StateM (Scene β))

/-- How a backend answers: the milliseconds it takes, and the response. It
has met the request before any time passes. -/
abbrev Backend (β : Type) := Request → StateM β (Nat × Response)

/-- **Whether so many milliseconds may pass** before the time of the current
request is over. What takes no time is never too late. -/
def Scene.Allows {β : Type} (s : Scene β) (millis : Nat) : Prop :=
  millis = 0 ∨ ∀ left ∈ s.left, millis < left

instance {β : Type} (s : Scene β) (millis : Nat) : Decidable (s.Allows millis) :=
  inferInstanceAs (Decidable (_ ∨ _))

namespace Exchange

/-- Lets time pass, and ends the exchange when the request has no time
left. -/
def sleep {β : Type} (millis : Nat) : Exchange β Unit := do
  let s ← get
  if s.Allows millis then set { s with left := s.left.map (· - millis) }
  else throw .timeOver

/-- Asks a backend. -/
def ask {β : Type} (b : Backend β) : Handler (Exchange β) := fun r => do
  let s ← get
  let ((delay, response), state) := b r s.backend
  set { s with backend := state }
  sleep delay
  return response

/-- **The milliseconds that a limit of seconds grants** at a moment of the
clock. A timer knows whole milliseconds only and rounds a deadline up, so
that the millisecond that has begun is granted with the limit. -/
def granted (seconds : Nat) (now : Instant) : Nat :=
  seconds * 1000 + if now.nanos % 1000000 = 0 then 0 else 1

/-- Runs a computation with a limit of seconds. Where the limit grants
nothing, its timer has run out before anything has begun. -/
def within {β : Type} (seconds : Nat) (act : Exchange β Response) :
    Exchange β (Option Response) := fun s =>
  if granted seconds s.clock = 0 then (.ok none, s)
  else
    match act { s with left := some (granted seconds s.clock) } with
    | (.ok r, t) => (.ok (some r), { t with left := s.left })
    | (.error .timeOver, t) => (.ok none, { t with left := s.left })
    | (.error e, t) => (.error e, { t with left := s.left })

/-- Opens a path of a disk. -/
def openFile {β : Type} (files : Files.Disk) (path : String) :
    Exchange β Files.Opened := do
  sleep (files.delay path)
  return files.openPath path

/-- **The world of a scene**, with a disk. -/
def world {β : Type} (files : Files.Disk) (choose : Chooser) :
    World (Exchange β) where
  now := return (← get).clock
  millis := return (← get).millis
  onStore f := modifyGet fun s => let (a, t) := f s.store; (a, { s with store := t })
  choose := choose
  report e := modify fun s => { s with log := e :: s.log }
  count c := modify fun s => { s with metrics := s.metrics.increment c }
  openFile := openFile files
  within := within
  abandon := throw .clockOverflow

end Exchange

end Gatehouse.Chain
