import Gatehouse.Proofs.Chain.Records

/-!
# What answers behind a cache

Behind the cache there is something that answers, and the cache relies on
nothing but that it leaves the store alone. A `Source` is that: a handler
with a state of its own, which may let the clock go on, be interrupted, and
answer one request differently every time.

What a source was asked and what it answered can be had from the source
itself: `recalling` writes its dialogues down. Doing so is not to be
noticed, because a source goes on as before and nothing else looks at its
state (`agree_recalling`).
-/

namespace Gatehouse.Chain

open Http Cache Exchange

variable {β δ : Type}

/-- **What answers behind a cache.** -/
structure Source (β : Type) where
  answer : Handler (Exchange β)
  /-- The store is left alone. -/
  store_answer : ∀ r s, (answer r s).2.store = s.store
  /-- Records do not matter. -/
  agree_answer : AgreeOn Eq answer answer

theorem Exchange.store_sleep (millis : Nat) (s : Scene β) :
    (sleep millis s).2.store = s.store := by
  obtain ⟨left, hsleep⟩ := exists_sleep_snd millis s
  rw [hsleep]

/-- A backend is a source. -/
def Source.ofBackend (b : Backend β) : Source β where
  answer := ask b
  agree_answer := Agree.ask b
  store_answer r s := by
    rw [ask_apply, bind_apply]
    have hsleep := store_sleep (b r s.backend).1.1
      { s with backend := (b r s.backend).2 }
    split
    · next h => rw [h] at hsleep; exact hsleep
    · next h => rw [h] at hsleep; exact hsleep

/-! ## Dialogues -/

/-- **A dialogue**: a request that a source has answered, what it answered,
and when the answer was there. -/
structure Dialogue where
  request : Request
  response : Response
  time : Instant
deriving DecidableEq, Inhabited

/-- A scene with another backend. -/
def Scene.withBackend (s : Scene β) (state : δ) : Scene δ where
  store := s.store
  metrics := s.metrics
  log := s.log
  clock := s.clock
  millis := s.millis
  left := s.left
  backend := state

namespace Source

/-- What a source comes to, with its dialogues written down. -/
def noteDown (r : Request) (ds : List Dialogue) :
    Except Interrupt Response × Scene β →
      Except Interrupt Response × Scene (β × List Dialogue)
  | (.ok a, t) => (.ok a, t.withBackend (t.backend, ds ++ [⟨r, a, t.clock⟩]))
  | (.error e, t) => (.error e, t.withBackend (t.backend, ds))

/-- **A source that recalls its dialogues**, the latest last. -/
def recalling (o : Source β) : Handler (Exchange (β × List Dialogue)) :=
  fun r s => noteDown r s.backend.2 (o.answer r (s.withBackend s.backend.1))

variable {o : Source β} {r : Request} {s t : Scene (β × List Dialogue)}

/-- The store is left alone all the same. -/
theorem store_recalling (o : Source β) (r : Request)
    (s : Scene (β × List Dialogue)) : (o.recalling r s).2.store = s.store := by
  have h := o.store_answer r (s.withBackend s.backend.1)
  unfold recalling
  rcases hx : o.answer r (s.withBackend s.backend.1) with ⟨_ | a, t⟩
  · rw [hx] at h
    exact h
  · rw [hx] at h
    exact h

/-- An answer is one more dialogue. -/
theorem dialogues_of_ok {a : Response} (h : o.recalling r s = (.ok a, t)) :
    t.backend.2 = s.backend.2 ++ [⟨r, a, t.clock⟩] := by
  unfold recalling at h
  rcases hx : o.answer r (s.withBackend s.backend.1) with ⟨_ | a, t'⟩
  · rw [hx] at h
    cases h
  · rw [hx] at h
    cases h
    rfl

/-- Without an answer there is no dialogue. -/
theorem dialogues_of_error {e : Interrupt} (h : o.recalling r s = (.error e, t)) :
    t.backend.2 = s.backend.2 := by
  unfold recalling at h
  rcases hx : o.answer r (s.withBackend s.backend.1) with ⟨_ | a, t'⟩
  · rw [hx] at h
    cases h
    rfl
  · rw [hx] at h
    cases h

/-- States with a memory beside them, and without. -/
def Beside (x : β × List Dialogue) (y : β) : Prop := x.1 = y

/-- **Recalling is not noticed** from outside. -/
theorem agree_recalling (o : Source β) : AgreeOn Beside o.recalling o.answer := by
  intro r s t h
  have hst : (s.withBackend s.backend.1).Alike Eq t :=
    ⟨h.store, h.clock, h.millis, h.left, h.backend⟩
  obtain ⟨hres, hscene⟩ := o.agree_answer r _ _ hst
  unfold recalling
  rcases hx : o.answer r (s.withBackend s.backend.1) with ⟨_ | a, s'⟩
  · rw [hx] at hres hscene
    exact ⟨hres, hscene.store, hscene.clock, hscene.millis, hscene.left,
      hscene.backend⟩
  · rw [hx] at hres hscene
    exact ⟨hres, hscene.store, hscene.clock, hscene.millis, hscene.left,
      hscene.backend⟩

end Source

end Gatehouse.Chain
