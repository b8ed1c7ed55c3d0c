import Gatehouse.Proofs.Chain.Layers

/-!
# Records do not matter

A chain writes down what it does, in events and counters, and nothing it
does depends on what is written there. Nor does it depend on the state of
the backend, which only the backend looks at. This module makes both
usable: two scenes are *alike* when they differ in their records at most
and their backends are in states that go together, and two exchanges
*agree* when, from alike scenes, they end in the same way and leave alike
scenes behind. Which states go together is a relation `Q`, and it is
equality where the two backends are one.

Agreement is compositional. It holds of every step that a layer takes, it
passes through a sequence of steps (`Agree.bind`), and a step that only
records something can be left out. So every layer takes agreeing handlers
to agreeing handlers (`AgreeOn.interior`, `Agree.exterior`), and agreeing
handlers come to the same answers on every run (`AgreeOn.runAll`).
-/

namespace Gatehouse.Chain

open Http Cache

variable {α γ β δ : Type} {Q : β → δ → Prop}

/-! ## Alike scenes -/

/-- **Scenes that are alike**: the same but for their counters and events,
with backends in states that go together. -/
structure Scene.Alike (Q : β → δ → Prop) (s : Scene β) (t : Scene δ) : Prop where
  store : s.store = t.store
  clock : s.clock = t.clock
  millis : s.millis = t.millis
  left : s.left = t.left
  backend : Q s.backend t.backend

namespace Scene.Alike

theorem refl (s : Scene β) : s.Alike Eq s := ⟨rfl, rfl, rfl, rfl, rfl⟩

/-- Records on the left do not matter. -/
theorem trans {s t : Scene β} {u : Scene δ} (h : s.Alike Eq t)
    (h' : t.Alike Q u) : s.Alike Q u :=
  ⟨h.store.trans h'.store, h.clock.trans h'.clock, h.millis.trans h'.millis,
    h.left.trans h'.left, h.backend ▸ h'.backend⟩

end Scene.Alike

/-! ## Agreeing exchanges -/

namespace Exchange

/-- **Exchanges that agree**: from alike scenes they end in the same way and
leave alike scenes. -/
def Agree (Q : β → δ → Prop) (x : Exchange β α) (y : Exchange δ α) : Prop :=
  ∀ s t, s.Alike Q t → (x s).1 = (y t).1 ∧ (x s).2.Alike Q (y t).2

namespace Agree

theorem pure (a : α) : Agree Q (Pure.pure a) (Pure.pure a) :=
  fun _ _ h => ⟨rfl, h⟩

/-- Agreement passes through a sequence of steps. -/
theorem bind {x : Exchange β α} {y : Exchange δ α} {f : α → Exchange β γ}
    {g : α → Exchange δ γ} (hxy : Agree Q x y) (hfg : ∀ a, Agree Q (f a) (g a)) :
    Agree Q (x >>= f) (y >>= g) := by
  intro s t h
  obtain ⟨hres, hscene⟩ := hxy s t h
  rw [bind_apply, bind_apply]
  rcases hx : x s with ⟨a, s'⟩
  rcases hy : y t with ⟨b, t'⟩
  rw [hx, hy] at hres hscene
  obtain rfl : a = b := hres
  cases a with
  | error e => exact ⟨rfl, hscene⟩
  | ok a => exact hfg a s' t' hscene

theorem trans {x y : Exchange β α} {z : Exchange δ α} (hxy : Agree Eq x y)
    (hyz : Agree Q y z) : Agree Q x z := by
  intro s t h
  obtain ⟨hres, hscene⟩ := hxy s s (.refl s)
  obtain ⟨hres', hscene'⟩ := hyz s t h
  exact ⟨hres.trans hres', hscene.trans hscene'⟩

/-- A step before a computation that leaves no more than records can be left
out. -/
theorem skip {u : Exchange β Unit} {x : Exchange β α} {y : Exchange δ α}
    (hu : ∀ s, (u s).1 = .ok () ∧ (u s).2.Alike Eq s) (hxy : Agree Q x y) :
    Agree Q (u >>= fun _ => x) y := by
  intro s t h
  obtain ⟨hres, hscene⟩ := hu s
  rw [bind_apply]
  rcases hus : u s with ⟨r, s'⟩
  rw [hus] at hres hscene
  obtain rfl : r = .ok () := hres
  exact hxy s' t (hscene.trans h)

variable (files : Files.Disk) (choose : Chooser)

theorem now : Agree Q (world files choose).now (world files choose).now := by
  intro s t h
  rw [now_apply, now_apply, h.clock]
  exact ⟨rfl, h⟩

theorem millis : Agree Q (world files choose).millis (world files choose).millis := by
  intro s t h
  rw [millis_apply, millis_apply, h.millis]
  exact ⟨rfl, h⟩

theorem onStore (f : Store → α × Store) :
    Agree Q ((world files choose).onStore f) ((world files choose).onStore f) := by
  intro s t h
  rw [onStore_apply, onStore_apply, h.store]
  exact ⟨rfl, rfl, h.clock, h.millis, h.left, h.backend⟩

theorem report (e e' : Event) :
    Agree Q ((world files choose).report e) ((world files choose).report e') :=
  fun _ _ h => ⟨rfl, h.store, h.clock, h.millis, h.left, h.backend⟩

theorem count (c c' : Counter) :
    Agree Q ((world files choose).count c) ((world files choose).count c') :=
  fun _ _ h => ⟨rfl, h.store, h.clock, h.millis, h.left, h.backend⟩

/-- Two exchanges may write down what they like. -/
theorem note (n n' : Notes) : Agree Q (Exchange.note n) (Exchange.note n') :=
  fun _ _ h => ⟨rfl, h.store, h.clock, h.millis, h.left, h.backend⟩

theorem abandon :
    Agree Q ((world files choose).abandon (α := α)) (world files choose).abandon :=
  fun _ _ h => ⟨rfl, h⟩

/-- A limit of time keeps agreement, because the time that is left is no
record. -/
theorem within (seconds : Nat) {x : Exchange β Response} {y : Exchange δ Response}
    (hxy : Agree Q x y) :
    Agree Q (Exchange.within seconds x) (Exchange.within seconds y) := by
  intro s t h
  have hgranted : granted seconds s.clock = granted seconds t.clock := by rw [h.clock]
  unfold Exchange.within
  rw [hgranted]
  split
  · exact ⟨rfl, h⟩
  · have hstart : Scene.Alike Q { s with left := some (granted seconds t.clock) }
        { t with left := some (granted seconds t.clock) } :=
      ⟨h.store, h.clock, h.millis, rfl, h.backend⟩
    obtain ⟨hres, hscene⟩ := hxy _ _ hstart
    rcases hx : x { s with left := some (granted seconds t.clock) } with ⟨a, s'⟩
    rcases hy : y { t with left := some (granted seconds t.clock) } with ⟨b, t'⟩
    rw [hx, hy] at hres hscene
    obtain rfl : a = b := hres
    have hend : Scene.Alike Q { s' with left := s.left } { t' with left := t.left } :=
      ⟨hscene.store, hscene.clock, hscene.millis, h.left, hscene.backend⟩
    rcases a with e | r
    · cases e <;> exact ⟨rfl, hend⟩
    · exact ⟨rfl, hend⟩

theorem sleep (millis : Nat) :
    Agree Q (Exchange.sleep millis) (Exchange.sleep millis) := by
  intro s t h
  have hallows : s.Allows millis ↔ t.Allows millis := by
    unfold Scene.Allows
    rw [h.left]
  rw [sleep_apply, sleep_apply, h.left]
  by_cases htime : t.Allows millis
  · rw [if_pos htime, if_pos (hallows.2 htime)]
    exact ⟨rfl, h.store, h.clock, h.millis, rfl, h.backend⟩
  · rw [if_neg htime, if_neg (mt hallows.1 htime)]
    exact ⟨rfl, h⟩

theorem ask (b : Backend β) (r : Request) :
    Agree Eq (Exchange.ask b r) (Exchange.ask b r) := by
  intro s t h
  rw [ask_apply, ask_apply, h.backend]
  exact (sleep _).bind (fun _ => pure _) _ _
    ⟨h.store, h.clock, h.millis, h.left, rfl⟩

end Agree

end Exchange

/-! ## Layers -/

open Exchange

/-- **Handlers that agree** on every request. -/
def AgreeOn (Q : β → δ → Prop) (h : Handler (Exchange β))
    (h' : Handler (Exchange δ)) : Prop :=
  ∀ r, Agree Q (h r) (h' r)

namespace AgreeOn

variable {h : Handler (Exchange β)} {h' : Handler (Exchange δ)}
variable (files : Files.Disk) (choose : Chooser)

theorem wrapIf {layer : Handler (Exchange β) → Handler (Exchange β)}
    {layer' : Handler (Exchange δ) → Handler (Exchange δ)} (b : Bool)
    (hlayer : AgreeOn Q h h' → AgreeOn Q (layer h) (layer' h'))
    (hh : AgreeOn Q h h') :
    AgreeOn Q (Plan.wrapIf b layer h) (Plan.wrapIf b layer' h') := by
  unfold Plan.wrapIf
  cases b with
  | true => exact hlayer hh
  | false => exact hh

theorem caching (hh : AgreeOn Q h h') :
    AgreeOn Q (caching (world files choose) h) (caching (world files choose) h') := by
  intro r
  unfold Chain.caching
  split
  · exact (Agree.count files choose _ _).bind fun _ =>
      (hh r).bind fun _ => .pure _
  · refine (Agree.now files choose).bind fun _ =>
      (Agree.onStore files choose _).bind fun hit => ?_
    cases hit with
    | some e =>
      exact (Agree.report files choose _ _).bind fun _ =>
        (Agree.count files choose _ _).bind fun _ => .pure _
    | none =>
      refine (Agree.count files choose _ _).bind fun _ => (hh r).bind fun a =>
        (Agree.onStore files choose _).bind fun limit => ?_
      split
      · exact .pure _
      · unfold keep
        split
        · exact (Agree.report files choose _ _).bind fun _ => .pure _
        · refine (Agree.now files choose).bind fun now => ?_
          split
          · exact Agree.abandon files choose
          · exact (Agree.onStore files choose _).bind fun _ =>
              (Agree.report files choose _ _).bind fun _ => .pure _

theorem sendfile (hh : AgreeOn Q h h') :
    AgreeOn Q (sendfile (world files choose) h) (sendfile (world files choose) h') := by
  intro r
  rw [sendfile_eq, sendfile_eq]
  exact (hh _).bind fun _ => (Agree.note _ _).bind fun _ =>
    (Agree.sleep _).bind fun _ => .pure _

theorem requestStart (hh : AgreeOn Q h h') :
    AgreeOn Q (requestStart (world files choose) h)
      (requestStart (world files choose) h') := by
  intro r
  rw [requestStart_eq, requestStart_eq]
  exact (Agree.millis files choose).bind fun _ => hh _

theorem compression (hh : AgreeOn Q h h') :
    AgreeOn Q (compression h) (compression h') := by
  intro r
  rw [compression_eq, compression_eq]
  exact (hh r).bind fun _ => .pure _

theorem bodyLimit (limit : Nat) (hh : AgreeOn Q h h') :
    AgreeOn Q (bodyLimit limit h) (bodyLimit limit h') := by
  intro r
  rw [bodyLimit_eq, bodyLimit_eq]
  cases curtail limit r with
  | none => exact .pure _
  | some q => exact hh q

theorem tunnelRule (hh : AgreeOn Q h h') : AgreeOn Q (tunnelRule h) (tunnelRule h') :=
  fun r => (hh r).bind fun _ => .pure _

end AgreeOn

namespace Exchange.Agree

variable {h : Handler (Exchange β)} {h' : Handler (Exchange δ)} {r r' : Request}
variable (files : Files.Disk) (choose : Chooser)

/-! The two outer layers meet a request before the filter has seen it, so
what they need is agreement on that one request, and they may be given
different ones. -/

theorem timeout (seconds : Nat) (hh : Agree Q (h r) (h' r')) :
    Agree Q (timeout (world files choose) seconds h r)
      (timeout (world files choose) seconds h' r') := by
  refine (hh.within seconds).bind fun a => ?_
  cases a <;> exact .pure _

theorem requestLog (hh : Agree Q (h r) (h' r')) :
    Agree Q (requestLog (world files choose) h r)
      (requestLog (world files choose) h' r') :=
  hh.bind fun _ => (report files choose _ _).bind fun _ =>
    (count files choose _ _).bind fun _ =>
      (count files choose _ _).bind fun _ => .pure _

/-- The request log leaves no more than records. -/
theorem requestLog_left {y : Exchange δ Response} (hh : Agree Q (h r) y) :
    Agree Q (Chain.requestLog (world files choose) h r) y := by
  intro s t hst
  obtain ⟨hres, hscene⟩ := hh s t hst
  unfold Chain.requestLog
  rw [bind_apply]
  rcases hx : h r s with ⟨_ | a, s'⟩
  · rw [hx] at hres hscene
    exact ⟨hres, hscene⟩
  · rw [hx] at hres hscene
    exact ⟨hres, hscene.store, hscene.clock, hscene.millis, hscene.left,
      hscene.backend⟩

end Exchange.Agree

/-! ## The chain -/

/-- The interior takes agreeing handlers to agreeing handlers. -/
theorem AgreeOn.interior {h : Handler (Exchange β)}
    {h' : Handler (Exchange δ)} (files : Files.Disk)
    (choose : Chooser) (p : Plan) (hh : AgreeOn Q h h') :
    AgreeOn Q (p.interior (world files choose) h)
      (p.interior (world files choose) h') := by
  refine wrapIf _ (bodyLimit _) (wrapIf _ compression ?_)
  refine requestStart files choose (wrapIf _ (sendfile files choose) ?_)
  exact wrapIf _ (caching files choose) hh

/-- The exterior meets a request before the filter, and needs agreement on
that request only. -/
theorem Exchange.Agree.exterior {h : Handler (Exchange β)}
    {h' : Handler (Exchange δ)} {r r' : Request}
    (files : Files.Disk) (choose : Chooser) (p : Plan) (hh : Agree Q (h r) (h' r')) :
    Agree Q (p.exterior (world files choose) h r)
      (p.exterior (world files choose) h' r') := by
  unfold Plan.exterior Plan.wrapIf
  split
  · exact (hh.timeout files choose _).requestLog files choose
  · exact hh.timeout files choose _

/-! ## Runs -/

/-- **A run of agreeing handlers** comes to the same answers and leaves
alike scenes. -/
theorem AgreeOn.runAll {h : Handler (Exchange β)} {h' : Handler (Exchange δ)}
    (hh : AgreeOn Q h h') (arrivals : List Arrival) {s : Scene β} {t : Scene δ}
    (hst : s.Alike Q t) :
    (runAll h arrivals s).1 = (runAll h' arrivals t).1
      ∧ (runAll h arrivals s).2.Alike Q (runAll h' arrivals t).2 := by
  induction arrivals generalizing s t with
  | nil => exact ⟨rfl, hst⟩
  | cons a rest ih =>
    have henter : (a.enter s).Alike Q (a.enter t) :=
      ⟨hst.store, rfl, rfl, hst.left, hst.backend⟩
    obtain ⟨hres, hscene⟩ := hh a.request _ _ henter
    obtain ⟨hrest, hend⟩ := ih hscene
    refine ⟨?_, hend⟩
    show _ :: _ = _ :: _
    rw [hres, hrest]

end Gatehouse.Chain
