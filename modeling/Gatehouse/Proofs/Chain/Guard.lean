import Gatehouse.Proofs.Chain.Journey
import Gatehouse.Proofs.Chain.Records

/-!
# A chain with a country filter is a guard and the chain without

The filter is one layer among ten, and what it does to a request could be
undone, or found out, by any of the others: a cache could answer a client
that is to be turned away, compression could touch the refusal, a request
could be remembered. None of this happens. A chain with a filter does what
a guard in front of the same chain without a filter would do, and the guard
is a function of the request alone: it turns the request away (`Denied`), or
passes it on with the country of its client (`admitted`).

The filter leaves records that a guard of its own would not, which is why
the comparison is made up to records, by `Agree`. Two things stand outside
the guard and act on its refusal as on everything else. The answer to a
`HEAD` request loses its body at the rim of the chain. And the guard answers
in no time, but a timer may have run out before anybody is asked
(`Plan.Overdue`): then the client hears that, and no more about the filter
than a client who is let through (`turnedAway`). It takes a limit of zero
seconds, which the configuration check refuses.
-/

namespace Gatehouse.Chain

open Http Cache Country Exchange

variable {β : Type}

/-! ## The guard -/

/-- **The refusal**, as it leaves towards the client. It says what it is and
how long, and nothing about a cache or an encoding. -/
def refusal (method : Method) : Response where
  status := .forbidden
  headers := ⟨[⟨"content-type", Response.plainText⟩,
    ⟨"content-length", Bytes.ofString "13"⟩]⟩
  body := if method = Method.head then Body.empty else Body.ofString "Access denied"

/-- **The answer to a client that is turned away** under the deadline of a
plan. -/
def turnedAway (p : Plan) (now : Instant) (method : Method) : Response :=
  if p.Overdue now then conclude method (.bare .requestTimeout) else refusal method

/-- A limit of a second is enough for the refusal. -/
theorem turnedAway_of_pos {p : Plan} (h : 0 < p.requestSecs) (now : Instant)
    (method : Method) : turnedAway p now method = refusal method :=
  if_neg (Plan.not_overdue_of_pos h now)

/-- **A guard in front of a chain.** -/
def behind (p : Plan) (f : Filter) (h : Handler (Exchange β)) : Handler (Exchange β) :=
  fun r =>
    if Denied f r then do return turnedAway p (← get).clock r.method
    else h (admitted f r)

/-- The refusal is what the rim of the chain makes of a denial. -/
theorem conclude_accessDenied (method : Method) :
    conclude method accessDenied = refusal method := by
  have htunnel : opensTunnel method accessDenied = false := Bool.and_false _
  have hlength : withLength accessDenied
      = ⟨.forbidden, (refusal Method.get).headers,
        Body.ofString "Access denied"⟩ := by
    decide +kernel
  unfold conclude
  rw [htunnel, if_neg Bool.false_ne_true, hlength]
  by_cases hm : method = Method.head
  · subst hm
    rfl
  · unfold refusal
    rw [if_neg hm, if_neg hm]

/-! ## The layer -/

section Layer

variable (files : Files.Disk) (choose : Chooser)

/-- What the filter writes down is in the records only. -/
theorem noted_alike (s : Scene β) (n : Notes) :
    (note n s).1 = .ok () ∧ (note n s).2.Alike Eq s :=
  ⟨rfl, rfl, rfl, rfl, rfl, rfl⟩

/-- **The filter layer is the guard**, up to records. -/
theorem agree_countryGuard {h h' : Handler (Exchange β)} (hh : AgreeOn Eq h h')
    (f : Filter) (r : Request) :
    Agree Eq (countryGuard (world files choose) f h r)
      (if Denied f r then pure accessDenied else h' (admitted f r)) := by
  rw [countryGuard_eq]
  refine Agree.skip (noted_alike · _) ?_
  by_cases hden : Denied f r
  · rw [screen_of_denied hden, if_pos hden]
    exact .pure _
  · rw [screen_of_not_denied hden, if_neg hden]
    exact hh _

end Layer

/-! ## The chain -/

section Chain

variable (files : Files.Disk) (choose : Chooser)

/-- **A response that is there at once**, under the deadline of a plan. -/
def inTime (p : Plan) (a : Response) : Exchange β Response := do
  return if p.Overdue (← get).clock then .bare .requestTimeout else a

/-- What is there at once is there in time, and leaves the exterior as it
is. -/
theorem agree_exterior_pure (p : Plan) (a : Response) (r : Request) :
    Agree (β := β) Eq (p.exterior (world files choose) (fun _ => pure a) r)
      (inTime p a) := by
  have htimeout : Agree Eq (β := β)
      (timeout (world files choose) p.requestSecs (fun _ => pure a) r)
      (inTime p a) := by
    intro s t h
    have hrun : inTime p a t
        = (.ok (if p.Overdue t.clock then .bare .requestTimeout else a), t) := rfl
    have hclock : p.Overdue s.clock ↔ p.Overdue t.clock := by rw [h.clock]
    rw [p.timeout_apply files choose r s, hrun]
    by_cases htime : p.Overdue t.clock
    · rw [if_pos htime, if_pos (hclock.2 htime)]
      exact ⟨rfl, h⟩
    · rw [if_neg htime, if_neg (mt hclock.1 htime)]
      exact ⟨rfl, h⟩
  unfold Plan.exterior Plan.wrapIf
  split
  · exact htimeout.requestLog_left files choose
  · exact htimeout

/-- **The layers of a chain with a filter** are the guard and the layers
without: what stands in front of the filter neither changes a refusal nor
tells a request from the one that is passed on. -/
theorem agree_build (p : Plan) (f : Filter) {inner : Handler (Exchange β)}
    (hinner : AgreeOn Eq inner inner) (r : Request) :
    Agree Eq ({ p with filter := some f }.build (world files choose) inner r)
      (if Denied f r then inTime p accessDenied
        else { p with filter := none }.build (world files choose) inner
          (admitted f r)) := by
  rw [Plan.build_filter, Plan.build_noFilter]
  have hguard := agree_countryGuard files choose
    (hinner.interior files choose p) f r
  by_cases hden : Denied f r
  · rw [if_pos hden] at hguard ⊢
    have hout : Agree Eq
        (p.exterior (world files choose)
          (countryGuard (world files choose) f
            (p.interior (world files choose) inner)) r)
        (p.exterior (world files choose) (fun _ => pure accessDenied) r) :=
      Agree.exterior files choose p hguard
    exact hout.trans (agree_exterior_pure files choose p _ r)
  · rw [if_neg hden] at hguard ⊢
    exact hguard.exterior files choose p

/-- At the rim, what is there in time is what the guard answers. -/
theorem inTime_accessDenied (p : Plan) (method : Method) :
    (inTime p accessDenied >>= fun a => pure (conclude method a) : Exchange β Response)
      = do return turnedAway p (← get).clock method := by
  funext s
  show (Except.ok (conclude method
      (if p.Overdue s.clock then .bare .requestTimeout else accessDenied)), s)
    = (Except.ok (turnedAway p s.clock method), s)
  unfold turnedAway
  split
  · rfl
  · rw [conclude_accessDenied]

/-- **A complete chain with a filter** is a guard in front of the chain
without. -/
theorem agree_serve (p : Plan) (f : Filter) {inner : Handler (Exchange β)}
    (hinner : AgreeOn Eq inner inner) :
    AgreeOn Eq ({ p with filter := some f }.serve (world files choose) inner)
      (behind p f ({ p with filter := none }.serve (world files choose) inner)) := by
  intro r
  have hbuild := agree_build files choose p f hinner.tunnelRule r
  unfold behind
  by_cases hden : Denied f r
  · rw [if_pos hden] at hbuild ⊢
    rw [← inTime_accessDenied]
    exact hbuild.bind fun _ => .pure _
  · rw [if_neg hden] at hbuild ⊢
    unfold Plan.serve
    rw [method_admitted]
    exact hbuild.bind fun _ => .pure _

/-- A request that is turned away is refused in every scene. -/
theorem serve_of_denied (p : Plan) {f : Filter} {inner : Handler (Exchange β)}
    (hinner : AgreeOn Eq inner inner) {r : Request} (hden : Denied f r) (s : Scene β) :
    ({ p with filter := some f }.serve (world files choose) inner r s).1
        = .ok (turnedAway p s.clock r.method)
      ∧ ({ p with filter := some f }.serve (world files choose) inner r s).2.Alike
        Eq s := by
  have hrun : behind p f
      ({ p with filter := none }.serve (world files choose) inner) r s
      = (.ok (turnedAway p s.clock r.method), s) := by
    unfold behind
    rw [if_pos hden]
    rfl
  have h := agree_serve files choose p f hinner r s s (.refl s)
  rw [hrun] at h
  exact h

end Chain

/-! ## What a filter changes -/

/-- **A chain with a country filter**, on every request and in every scene,
whatever was asked before: a request that is turned away gets the refusal,
or hears that its time is over if it was over before anything began, and
neither the store nor the backend has noticed it; any other request is
answered, met by the backend and stored as the chain without the filter
does with the request that is passed on.

A run of requests is no more than that. From any scene on, the chain with
the filter comes to the answers, the store and the backend that the guard
in front of the chain without comes to. -/
theorem serve_filter (p : Plan) (f : Filter) (files : Files.Disk)
    (choose : Chooser) (b : Backend β) (s : Scene β) :
    let filtering := { p with filter := some f }.serve (world files choose) (ask b)
    let plain := { p with filter := none }.serve (world files choose) (ask b)
    (∀ r, Denied f r →
        (filtering r s).1 = .ok (turnedAway p s.clock r.method)
        ∧ (filtering r s).2.store = s.store
        ∧ (filtering r s).2.backend = s.backend)
      ∧ (∀ r, ¬ Denied f r →
        (filtering r s).1 = (plain (admitted f r) s).1
        ∧ (filtering r s).2.store = (plain (admitted f r) s).2.store
        ∧ (filtering r s).2.backend = (plain (admitted f r) s).2.backend)
      ∧ (∀ arrivals,
        (runAll filtering arrivals s).1 = (runAll (behind p f plain) arrivals s).1
        ∧ (runAll filtering arrivals s).2.store
          = (runAll (behind p f plain) arrivals s).2.store
        ∧ (runAll filtering arrivals s).2.backend
          = (runAll (behind p f plain) arrivals s).2.backend) := by
  intro filtering plain
  have hagree : AgreeOn Eq filtering (behind p f plain) :=
    agree_serve files choose p f (Agree.ask b)
  refine ⟨?_, ?_, ?_⟩
  · intro r hden
    obtain ⟨hres, hscene⟩ := serve_of_denied files choose p (Agree.ask b) hden s
    exact ⟨hres, hscene.store, hscene.backend⟩
  · intro r hpass
    obtain ⟨hres, hscene⟩ := hagree r s s (.refl s)
    have hrun : behind p f plain r = plain (admitted f r) := if_neg hpass
    rw [hrun] at hres hscene
    exact ⟨hres, hscene.store, hscene.backend⟩
  · intro arrivals
    obtain ⟨hres, hscene⟩ := hagree.runAll arrivals (.refl s)
    exact ⟨hres, hscene.store, hscene.backend⟩

/-- A plan with every layer but the filter. -/
def everyLayer : Plan := ⟨30, true, none, 8, true, true, true⟩

/-- A filter for one country that finds everybody in another. -/
def elsewhere : Filter := ⟨Policy.ofLists ["US"] [], fun _ => .ok (some "GB")⟩

/-- A request from the address `203.0.113.1`. -/
def visit (method : Method) : Request :=
  ⟨method, ⟨none, none, some "/page"⟩, Headers.empty, Body.empty,
    some ⟨.v4 ⟨203, 0, 113, 1⟩, 4000⟩, none⟩

/-- A backend that counts the requests it meets. -/
def counting : Backend Nat := fun _ n => ((0, Response.bare .ok), n + 1)

/-- The scene before the first request of a small cache. -/
def opening : Scene Nat := .start (.empty 1000 100) 0

/-- The client from elsewhere is turned away and not noticed by the backend;
a client without an address is let through. -/
theorem serve_filter_elsewhere :
    Denied elsewhere (visit .get)
      ∧ ({ everyLayer with filter := some elsewhere }.serve
          (world .empty fun _ => 0) (ask counting) (visit .get) opening).1
        = .ok (refusal .get)
      ∧ ({ everyLayer with filter := some elsewhere }.serve
          (world .empty fun _ => 0) (ask counting) (visit .get) opening).2.backend
        = 0
      ∧ ¬ Denied elsewhere { visit .get with peer := none }
      ∧ ({ everyLayer with filter := some elsewhere }.serve
          (world .empty fun _ => 0) (ask counting) { visit .get with peer := none }
          opening).2.backend
        = 1 := by
  have hden : Denied elsewhere (visit .get) := by decide +kernel
  have hpass : ¬ Denied elsewhere { visit .get with peer := none } := by
    decide +kernel
  obtain ⟨hrefused, hadmitted, -⟩ := serve_filter everyLayer elsewhere .empty
    (fun _ => 0) counting opening
  obtain ⟨hanswer, -, hbackend⟩ := hrefused (visit .get) hden
  have htold : turnedAway everyLayer opening.clock .get = refusal .get :=
    turnedAway_of_pos (by decide) _ _
  refine ⟨hden, hanswer.trans (congrArg _ htold), hbackend, hpass, ?_⟩
  rw [(hadmitted _ hpass).2.2]
  decide +kernel

/-- **A refusal does not always say that access is denied.** The refusal of
a `HEAD` request has no body, and with no time at all there is no refusal:
at a whole millisecond the timer has run out before the filter is asked. -/
theorem refusal_without_text :
    (Denied elsewhere (visit .head)
        ∧ ∃ a, ({ everyLayer with filter := some elsewhere }.serve
            (world .empty fun _ => 0) (ask counting) (visit .head) opening).1 = .ok a
          ∧ a.body ≠ Body.ofString "Access denied")
      ∧ (Denied elsewhere (visit .get)
        ∧ ∃ a, ({ everyLayer with requestSecs := 0, filter := some elsewhere }.serve
            (world .empty fun _ => 0) (ask counting) (visit .get) opening).1 = .ok a
          ∧ a.status ≠ .forbidden) := by
  have hhead : Denied elsewhere (visit .head) := by decide +kernel
  have hget : Denied elsewhere (visit .get) := by decide +kernel
  have hres := (serve_of_denied .empty (fun _ => 0) everyLayer
    (Agree.ask counting) hhead opening).1
  exact ⟨⟨hhead, _, hres, by decide +kernel⟩, hget, _, rfl, by decide +kernel⟩

end Gatehouse.Chain
