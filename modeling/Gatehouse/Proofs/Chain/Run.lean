import Mathlib
import Gatehouse.Chain.Exchange

/-!
# Running exchanges

An exchange is a function from a scene to an ending and a scene. The
equations here say so for everything an exchange is put together from: the
steps that a `World` offers, sequences of steps (`bind_apply`), the passing of
time (`sleep_apply`) and the question to a backend (`ask_apply`). With them
a layer is run by rewriting, and no proof about a layer looks at how the
monad is made.

A chain sees one request after another. `runAll` is such a run: the clocks
are set anew for each request, everything else is what the request before
has left.
-/

namespace Gatehouse.Chain

open Http Cache

variable {α γ β : Type}

namespace Exchange

@[simp] theorem pure_apply (a : α) (s : Scene β) :
    (pure a : Exchange β α) s = (.ok a, s) := rfl

/-- **A sequence of steps**: the rest is run where the first step comes to
an end. -/
theorem bind_apply (x : Exchange β α) (f : α → Exchange β γ) (s : Scene β) :
    (x >>= f) s = match x s with
      | (.ok a, t) => f a t
      | (.error e, t) => (.error e, t) := by
  show ExceptT.bindCont f (x s).1 (x s).2 = _
  rcases x s with ⟨_ | a, t⟩ <;> rfl

/-- A sequence whose first step is known to come to an end. -/
theorem bind_apply_ok {x : Exchange β α} {s t : Scene β} {a : α}
    (h : x s = (.ok a, t)) (f : α → Exchange β γ) : (x >>= f) s = f a t := by
  rw [bind_apply, h]

section World

variable (files : Files.Disk) (choose : Chooser)

@[simp] theorem now_apply (s : Scene β) :
    (world files choose).now s = (.ok s.clock, s) := rfl

@[simp] theorem millis_apply (s : Scene β) :
    (world files choose).millis s = (.ok s.millis, s) := rfl

@[simp] theorem onStore_apply (f : Store → α × Store) (s : Scene β) :
    (world files choose).onStore f s
      = (.ok (f s.store).1, { s with store := (f s.store).2 }) := rfl

@[simp] theorem report_apply (e : Event) (s : Scene β) :
    (world files choose).report e s = (.ok (), { s with log := e :: s.log }) := rfl

@[simp] theorem count_apply (c : Counter) (s : Scene β) :
    (world files choose).count c s
      = (.ok (), { s with metrics := s.metrics.increment c }) := rfl

@[simp] theorem abandon_apply (s : Scene β) :
    (world files choose).abandon (α := α) s = (.error .clockOverflow, s) := rfl

end World

/-- **Letting time pass** ends an exchange that has no time left. -/
theorem sleep_apply (millis : Nat) (s : Scene β) :
    sleep millis s = if s.Allows millis
      then (.ok (), { s with left := s.left.map (· - millis) })
      else (.error .timeOver, s) := by
  have hget : (get : Exchange β (Scene β)) s = (.ok s, s) := rfl
  unfold sleep
  rw [bind_apply_ok hget]
  split <;> rfl

/-- What takes no time is never too late. -/
theorem allows_zero (s : Scene β) : s.Allows 0 := Or.inl rfl

/-- What takes no time is no step. -/
theorem sleep_zero : (sleep 0 : Exchange β Unit) = pure () := by
  funext s
  have hleft : s.left.map (· - 0) = s.left := Option.map_id'
  rw [sleep_apply, if_pos (allows_zero s), hleft, pure_apply]

/-- Who lets time pass leaves everything else alone. -/
theorem exists_sleep_snd (millis : Nat) (s : Scene β) :
    ∃ left, (sleep millis s).2 = { s with left := left } := by
  rw [sleep_apply]
  split
  · exact ⟨_, rfl⟩
  · exact ⟨s.left, rfl⟩

/-- Without a limit there is time for everything. -/
theorem allows_of_left {s : Scene β} (h : s.left = none) (millis : Nat) :
    s.Allows millis := by
  right
  rw [h]
  exact fun _ => nofun

/-- **Asking a backend**: it has met the request in any case, and then its
response takes its time. -/
theorem ask_apply (b : Backend β) (r : Request) (s : Scene β) :
    ask b r s = (sleep (b r s.backend).1.1 >>= fun _ => pure (b r s.backend).1.2)
      { s with backend := (b r s.backend).2 } := rfl

end Exchange

/-! ## Runs -/

/-- **The scene before the first request**: a store, a backend, and nothing
recorded. -/
def Scene.start (store : Store) (backend : β) : Scene β where
  store := store
  metrics := .empty
  log := []
  clock := ⟨0⟩
  millis := 0
  left := none
  backend := backend

/-- **A request on its arrival**, with the readings of the two clocks. -/
structure Arrival where
  request : Request
  clock : Instant
  millis : Nat
deriving DecidableEq, Inhabited

namespace Arrival

/-- The scene in which a request is met. -/
def enter (a : Arrival) (s : Scene β) : Scene β :=
  { s with clock := a.clock, millis := a.millis }

end Arrival

/-- **A run of a handler**: what comes of every request, one after the
other, and the scene in the end. -/
def runAll (h : Handler (Exchange β)) :
    List Arrival → Scene β → List (Except Interrupt Response) × Scene β
  | [], s => ([], s)
  | a :: rest, s =>
    let (x, t) := h a.request (a.enter s)
    let (xs, u) := runAll h rest t
    (x :: xs, u)

theorem runAll_cons (h : Handler (Exchange β)) (a : Arrival) (rest : List Arrival)
    (s : Scene β) :
    (runAll h (a :: rest) s).1 = (h a.request (a.enter s)).1
      :: (runAll h rest (h a.request (a.enter s)).2).1 := rfl

theorem runAll_cons_snd (h : Handler (Exchange β)) (a : Arrival) (rest : List Arrival)
    (s : Scene β) :
    (runAll h (a :: rest) s).2 = (runAll h rest (h a.request (a.enter s)).2).2 := rfl

/-- **What every request keeps, a run keeps**: a property of a scene and of
the requests that have led to it holds in the end, if it holds in the
beginning and one more request does not end it. -/
theorem runAll_induction {h : Handler (Exchange β)}
    {P : List Arrival → Scene β → Prop}
    (step : ∀ past a s, P past s → P (past ++ [a]) (h a.request (a.enter s)).2)
    (arrivals past : List Arrival) {s : Scene β} (hs : P past s) :
    P (past ++ arrivals) (runAll h arrivals s).2 := by
  induction arrivals generalizing past s with
  | nil =>
    rw [List.append_nil]
    exact hs
  | cons a rest ih =>
    have h := ih (past ++ [a]) (step past a s hs)
    rw [List.append_assoc] at h
    exact h

end Gatehouse.Chain
