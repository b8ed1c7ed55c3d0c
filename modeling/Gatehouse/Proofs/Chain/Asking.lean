import Gatehouse.Proofs.Chain.Caching
import Gatehouse.Proofs.Chain.Journey
import Gatehouse.Proofs.Chain.Source

/-!
# What asks a backend

A handler in front of another asks it about a request at most once, and
often about another request than the one that came in. That is a statement
about effects: an exchange *asks* a handler when it leaves the backend as
the handler leaves it after the one request (`Asks`), and where it does not
ask although it could, it has a reason.

Everything else that an exchange does is `Quiet` for the backend, so a
handler is looked at by saying which of its steps is the question. Handlers
that pass requests on to the next (`Passes`) compose. A chain passes on the
request that its plan computes (`passes_serve`), unless its cache has found
something or the time is over before anything has begun (`asked_serve`); that
is read off the ways that a request can take through it. What a backend meets in
the end (`meetings`) is what the composition computes.
-/

namespace Gatehouse.Chain

open Http Cache Exchange

variable {α γ δ β : Type}

/-! ## Exchanges that ask -/

namespace Exchange

/-- An exchange in which the backend has no part. -/
def Quiet (x : Exchange β α) : Prop :=
  ∀ s, (x s).2.backend = s.backend ∧ (x s).2.millis = s.millis

/-- A quiet exchange that always comes to its end. -/
def Smooth (x : Exchange β α) : Prop :=
  Quiet x ∧ ∀ s, ∃ a, (x s).1 = .ok a

/-- **What becomes of the backend**: `next` was asked about the one request
`q?`, or the backend is left as it was. That it is left so although there
is a request for it needs a reason, `spare`. -/
inductive Asked (next : Request → Exchange β γ) (q? : Option Request) (spare : Prop)
    (s t : Scene β) : Prop
  | spared (hspare : q? = none ∨ spare) (hbackend : t.backend = s.backend)
  | asked {q : Request} {u : Scene β} (hq : q? = some q)
      (hmillis : u.millis = s.millis) (hbefore : u.backend = s.backend)
      (hafter : t.backend = (next q u).2.backend)

namespace Asked

variable {next : Request → Exchange β γ} {q? : Option Request} {spare spare' : Prop}
variable {s t : Scene β}

/-- A reason may be given less precisely. -/
theorem imp (h : Asked next q? spare s t) (hspare : spare → spare') :
    Asked next q? spare' s t := by
  cases h with
  | spared hq hbackend => exact .spared (hq.imp_right hspare) hbackend
  | asked hq hmillis hbefore hafter => exact .asked hq hmillis hbefore hafter

/-- What becomes of a backend that writes down what it meets. -/
theorem met {next : Request → Exchange (β × List Request) γ}
    {s t : Scene (β × List Request)} (h : Asked next q? spare s t)
    (hnext : ∀ q u, (next q u).2.backend.2 = u.backend.2 ++ [q]) :
    t.backend.2 = s.backend.2 ++ q?.toList ∨ spare ∧ t.backend = s.backend := by
  cases h with
  | spared hspare hbackend =>
    rcases hspare with rfl | hspare
    · rw [hbackend]
      exact Or.inl (List.append_nil _).symm
    · exact Or.inr ⟨hspare, hbackend⟩
  | @asked q u hq hmillis hbefore hafter =>
    rw [hafter, hnext, hbefore, hq]
    exact Or.inl rfl

end Asked

/-- **An exchange that asks** `next` about a request that may depend on the
time of day, or spares it for a reason. -/
def Asks (next : Request → Exchange β γ) (q? : Nat → Option Request) (spare : Prop)
    (x : Exchange β α) : Prop :=
  ∀ s, Asked next (q? s.millis) spare s (x s).2

/-- **A question is passed on** by who is asked. -/
theorem Asked.trans {next : Request → Exchange β γ} {inner : Request → Exchange β δ}
    {q? : Option Request} {spare spare' : Prop} {f : Nat → Request → Option Request}
    {s t : Scene β} (h : Asked next q? spare s t)
    (hnext : ∀ q, Asks inner (fun millis => f millis q) spare' (next q)) :
    Asked inner (q?.bind (f s.millis)) (spare ∨ spare') s t := by
  cases h with
  | spared hspare hbackend =>
    refine .spared (hspare.imp (fun hq => ?_) Or.inl) hbackend
    rw [hq]
    rfl
  | @asked q u hq hmillis hbefore hafter =>
    rw [hq, Option.bind_some]
    have h := hnext q u
    rw [hmillis] at h
    cases h with
    | spared hspare hbackend =>
      exact .spared (hspare.imp id Or.inr) ((hafter.trans hbackend).trans hbefore)
    | asked hq' hmillis' hbefore' hafter' =>
      exact .asked hq' (hmillis'.trans hmillis) (hbefore'.trans hbefore)
        (hafter.trans hafter')

namespace Smooth

variable (files : Files.Disk) (choose : Chooser)

theorem pure (a : α) : Smooth (Pure.pure a : Exchange β α) :=
  ⟨fun _ => ⟨rfl, rfl⟩, fun _ => ⟨_, rfl⟩⟩

theorem report (e : Event) : Smooth (β := β) ((world files choose).report e) :=
  ⟨fun _ => ⟨rfl, rfl⟩, fun _ => ⟨_, rfl⟩⟩

end Smooth

namespace Quiet

theorem bind {x : Exchange β α} {g : α → Exchange β γ} (hx : Quiet x)
    (hg : ∀ a, Quiet (g a)) : Quiet (x >>= g) := by
  intro s
  obtain ⟨hbackend, hmillis⟩ := hx s
  rw [bind_apply]
  rcases hxs : x s with ⟨_ | a, t⟩
  · rw [hxs] at hbackend hmillis
    exact ⟨hbackend, hmillis⟩
  · rw [hxs] at hbackend hmillis
    obtain ⟨hbackend', hmillis'⟩ := hg a t
    exact ⟨hbackend'.trans hbackend, hmillis'.trans hmillis⟩

theorem pure (a : α) : Quiet (Pure.pure a : Exchange β α) := (Smooth.pure a).1

/-- A quiet exchange stays quiet when something smooth comes first. -/
theorem after {x : Exchange β α} {g : α → Exchange β γ} (hx : Smooth x)
    (hg : ∀ a, Quiet (g a)) : Quiet (x >>= g) := hx.1.bind hg

theorem sleep (millis : Nat) : Quiet (β := β) (Exchange.sleep millis) := by
  intro s
  obtain ⟨left, hsleep⟩ := exists_sleep_snd millis s
  rw [hsleep]
  exact ⟨rfl, rfl⟩

end Quiet

/-- A backend has met a request even where its answer comes too late. -/
theorem backend_ask (b : Backend β) (r : Request) (s : Scene β) :
    (ask b r s).2.backend = (b r s.backend).2 := by
  rw [ask_apply]
  exact ((Quiet.sleep _).bind (fun _ => .pure _) _).1

namespace Asks

variable {next : Request → Exchange β γ} {q? : Nat → Option Request} {spare : Prop}

/-- Nobody is asked where there is nothing to ask. -/
theorem nothing {x : Exchange β α} (hx : Quiet x) :
    Asks next (fun _ => none) spare x :=
  fun s => .spared (.inl rfl) (hx s).1

theorem self (next : Request → Exchange β γ) (r : Request) :
    Asks next (fun _ => some r) spare (next r) :=
  fun _ => .asked rfl rfl rfl rfl

/-- What comes after the question leaves the backend alone. -/
theorem bind {x : Exchange β α} {g : α → Exchange β δ} (hx : Asks next q? spare x)
    (hg : ∀ a, Quiet (g a)) : Asks next q? spare (x >>= g) := by
  intro s
  have h := hx s
  rw [bind_apply]
  rcases hxs : x s with ⟨_ | a, t⟩
  · rwa [hxs] at h
  · rw [hxs] at h
    have hquiet := (hg a t).1
    cases h with
    | spared hspare hbackend => exact .spared hspare (hquiet.trans hbackend)
    | asked hq hmillis hbefore hafter =>
      exact .asked hq hmillis hbefore (hquiet.trans hafter)

/-- What comes before the question leaves the backend alone, and does not
end before it. -/
theorem after {x : Exchange β α} {g : α → Exchange β δ} (hx : Smooth x)
    (hg : ∀ a, Asks next q? spare (g a)) : Asks next q? spare (x >>= g) := by
  intro s
  obtain ⟨hbackend, hmillis⟩ := hx.1 s
  obtain ⟨a, ha⟩ := hx.2 s
  have hxs : x s = (.ok a, (x s).2) := Prod.ext ha rfl
  rw [bind_apply_ok hxs]
  have h := hg a (x s).2
  rw [hmillis] at h
  cases h with
  | spared hspare hbackend' => exact .spared hspare (hbackend'.trans hbackend)
  | asked hq hmillis' hbefore hafter =>
    exact .asked hq (hmillis'.trans hmillis) (hbefore.trans hbackend) hafter

/-- A question is passed on by who is asked. -/
theorem trans {x : Exchange β α} {inner : Request → Exchange β δ} {spare' : Prop}
    {f : Nat → Request → Option Request} (hx : Asks next q? spare x)
    (hnext : ∀ q, Asks inner (fun millis => f millis q) spare' (next q)) :
    Asks inner (fun millis => (q? millis).bind (f millis)) (spare ∨ spare') x :=
  fun s => (hx s).trans hnext

end Asks

end Exchange

/-! ## Handlers that pass requests on -/

/-- **A handler in front of another**, the request that it hands on at each
time of day, and what may keep it from handing it on. -/
def Passes (h : Request → Exchange β α) (next : Request → Exchange β γ)
    (onward : Nat → Request → Option Request) (spare : Prop) : Prop :=
  ∀ r, Asks next (fun millis => onward millis r) spare (h r)

namespace Passes

variable {h : Request → Exchange β α} {next : Request → Exchange β γ}
variable {inner : Request → Exchange β δ} {f g : Nat → Request → Option Request}
variable {spare spare' : Prop}

theorem trans (hh : Passes h next f spare) (hnext : Passes next inner g spare') :
    Passes h inner (fun millis r => (f millis r).bind (g millis)) (spare ∨ spare') :=
  fun r => (hh r).trans hnext

end Passes

/-! ## What a backend meets -/

/-- **A backend that writes down** the requests that it is asked about. -/
def noting (b : Request → StateM β α) : Request → StateM (β × List Request) α :=
  fun r s => ((b r s.1).1, (b r s.1).2, s.2 ++ [r])

/-- **What a backend meets** while a request is answered. -/
def meetings (h : Request → Exchange (β × List Request) α) (r : Request)
    (s : Scene β) : List Request :=
  (h r (s.withBackend (s.backend, []))).2.backend.2

theorem notes_ask (b : Backend β) (q : Request) (u : Scene (β × List Request)) :
    (ask (noting b) q u).2.backend.2 = u.backend.2 ++ [q] := by
  rw [backend_ask]
  rfl

/-- **What is met is what is handed on**: the one request, unless there is a
reason to spare the backend. -/
theorem Passes.meetings_eq {h : Request → Exchange (β × List Request) α}
    {next : Request → Exchange (β × List Request) γ} {spare : Prop}
    {onward : Nat → Request → Option Request} (hh : Passes h next onward spare)
    (hnext : ∀ q u, (next q u).2.backend.2 = u.backend.2 ++ [q])
    (r : Request) (s : Scene β) :
    meetings h r s = (onward s.millis r).toList ∨ spare ∧ meetings h r s = [] :=
  ((hh r (s.withBackend (s.backend, []))).met hnext).imp_right
    (And.imp_right fun hbackend => congrArg Prod.snd hbackend)

/-! ## A chain passes on -/

section Chain

variable (files : Files.Disk) (choose : Chooser)

/-- **Something fresh is found** under the key of a request. -/
def Found (r : Request) (s : Scene β) : Prop :=
  ∃ key e, key? r = some key ∧ (s.store.get s.clock key).1 = some e

/-- A cache asks what is behind it, unless it finds something fresh. -/
theorem asked_caching (next : Handler (Exchange β)) (r : Request) (s : Scene β) :
    Asked next (some r) (Found r s) s (caching (world files choose) next r s).2 := by
  have hcourse := caching_course files choose next r s
  generalize caching (world files choose) next r s = y at hcourse ⊢
  cases hcourse with
  | hit hkey hget => exact .spared (.inr ⟨_, _, hkey, hget⟩) rfl
  | interrupted hon hnext | bypassed _ hon hnext | passed _ hon hnext
  | unbuffered _ hon hnext | overflowed _ hon hnext | kept _ hon hnext =>
    exact .asked rfl hon.millis hon.backend (by rw [hnext])

variable (p : Plan) (inner : Handler (Exchange β))

/-- What lies inside of the layer that serves files asks about a request as it
is, unless a cache finds something. -/
theorem asked_inside (q : Request) (s : Scene β) :
    Asked inner (some q) (p.cacheEnabled = true ∧ Found q s) s
      (p.inside (world files choose) inner q s).2 := by
  have htunnel (q : Request) : Asks inner (fun _ => some q) False (tunnelRule inner q) :=
    (Asks.self inner q).bind fun _ => .pure _
  unfold Plan.inside Plan.wrapIf
  cases p.cacheEnabled with
  | true =>
    exact ((asked_caching files choose (tunnelRule inner) q s).trans
      (f := fun _ q => some q) htunnel).imp
        fun hspare => ⟨rfl, hspare.resolve_right id⟩
  | false => exact (htunnel q s).imp False.elim

/-- **A chain asks** about the request that its plan computes, unless it has no
time for it, or has a cache that finds something fresh for it. -/
theorem asked_serve (r : Request) (s : Scene β) :
    Asked inner (p.onward s.millis r)
      (p.Overdue s.clock
        ∨ p.cacheEnabled = true ∧ ∃ q, p.onward s.millis r = some q ∧ Found q s) s
      (p.serve (world files choose) inner r s).2 := by
  have hway := p.serve_journey files choose inner r s
  generalize p.serve (world files choose) inner r s = y at hway ⊢
  -- what has happened inside has happened, whatever becomes of the answer
  have hinside {q : Request} {x : Except Interrupt Response} {t u : Scene β}
      (hon : p.onward s.millis r = some q)
      (hx : p.inside (world files choose) inner q (p.ahead r s) = (x, t))
      (hu : u.backend = t.backend) :
      Asked inner (p.onward s.millis r)
        (p.Overdue s.clock
          ∨ p.cacheEnabled = true ∧ ∃ q, p.onward s.millis r = some q ∧ Found q s) s u := by
    have hasked := asked_inside files choose p inner q (p.ahead r s)
    rw [hx] at hasked
    cases hasked with
    | spared hspare hbackend =>
      obtain ⟨hcache, hfound⟩ := hspare.resolve_left (Option.some_ne_none q)
      exact .spared (.inr (.inr ⟨hcache, q, hon, hfound⟩)) (hu.trans hbackend)
    | asked hq hmillis hbefore hafter =>
      exact .asked (hon.trans hq) hmillis hbefore (hu.trans hafter)
  cases hway with
  | overdue htime => exact .spared (.inr (.inl htime)) rfl
  | refused _ hon => exact .spared (.inl hon) rfl
  | answered _ hon hx _ | unopened _ hon hx _ | late _ hon hx | abandoned _ hon hx =>
    exact hinside hon hx rfl

/-- **A chain passes on** the request that its plan computes, and nothing
but a cache and a limit of no time keeps it from doing so. -/
theorem passes_serve :
    Passes (p.serve (world files choose) inner) inner p.onward
      (p.requestSecs = 0 ∨ p.cacheEnabled = true) :=
  fun r s => (asked_serve files choose p inner r s).imp
    (Or.imp (fun htime => (Plan.overdue_iff.mp htime).1) And.left)

end Chain

end Gatehouse.Chain
