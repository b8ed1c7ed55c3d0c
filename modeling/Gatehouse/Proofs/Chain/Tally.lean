import Gatehouse.Proofs.Chain.Journey
import Gatehouse.Proofs.Chain.Outcome
import Gatehouse.Proofs.Forward.Delivery

/-!
# The records agree with what clients saw

Four layers of a chain keep accounts, each of its own part: the filter counts
verdicts, the cache counts lookups, the outermost layer counts answers and
reports them. A request can end early in any of the layers between. What is
counted for it all the same is read off from `Plan.serve_journey`, as one list
of counters for the way that it took (`Plan.accounts`), and what a run of
requests has counted is these lists one behind the other (`Visit.run`).

Every statement about a counter is then one about how often it stands in the
list of a single request (`sum_map_eq_countP`). What a client saw and what the
filter would have said part in one place. Where the time is over before anybody
is asked (`Plan.Overdue`), there is a verdict on the client that is passed on
nobody (`Plan.passed?`), and nobody counts it.
-/

namespace Gatehouse

/-- **Counters that are incremented one after the other** show how often each of
them was. -/
theorem Metrics.count_foldl_increment (cs : List Counter) (m : Metrics) (c : Counter) :
    (cs.foldl Metrics.increment m).count c = m.count c + cs.count c := by
  induction cs generalizing m with
  | nil => rfl
  | cons d rest ih =>
    rw [List.foldl_cons, ih, Metrics.count_increment, List.count_cons, Nat.add_assoc,
      Nat.add_comm (if d = c then 1 else 0)]
    simp only [beq_iff_eq]

namespace Chain

open Http Cache Country Exchange Forward

variable {β : Type}

/-- What is noted is counted. -/
theorem Scene.count_noted (s : Scene β) (n : Notes) (c : Counter) :
    (s.noted n).metrics.count c = s.metrics.count c + n.counters.count c :=
  Metrics.count_foldl_increment n.counters s.metrics c

/-! ## A forwarder keeps no accounts -/

/-- What is no report of a request adds none. -/
theorem requestLines_append (notes log : List Event) (h : requestLines notes = []) :
    requestLines (notes ++ log) = requestLines log := by
  unfold requestLines at h ⊢
  rw [List.filterMap_append, h, List.nil_append]

section Forwarding

variable (files : Files.Disk) (choose : Chooser)

/-- An event that is no report of a request may be reported. -/
theorem Exchange.Unaccounted.report (e : Event) (he : Chain.requestLines [e] = []) :
    Unaccounted ((world files choose).report e : Exchange β Unit) :=
  ⟨fun _ => rfl, fun s => requestLines_append [e] s.log he⟩

theorem Exchange.Unaccounted.dial (l : Line β) (r : Request) : Unaccounted (dial l r) := by
  have hrest (s : Scene β) := (sleep (β := β) (l r s.backend).1.1).bind
    fun _ => pure (l r s.backend).1.2
  refine ⟨fun s => ?_, fun s => ?_⟩
  · rw [dial_apply, (hrest s).metrics]
  · rw [dial_apply, (hrest s).requestLines]

/-- **The innermost handler of the gate** keeps no accounts, whatever is at the
other end of its line. -/
def Responder.ofForwarder (f : Forwarder) (l : Line β) : Responder β where
  answer := f.handle (world files choose) (dial l)
  unaccounted r := by
    unfold Forwarder.handle Forwarder.forward
    split
    · split
      · exact (Unaccounted.report files choose _ rfl).bind fun _ => .pure _
      · refine (Unaccounted.report files choose _ rfl).bind fun _ =>
          (Unaccounted.dial l _).bind fun a => ?_
        cases a with
        | some a => exact .pure _
        | none => exact (Unaccounted.report files choose _ rfl).bind fun _ => .pure _
    · exact .pure _

end Forwarding

/-! ## The accounts of one request -/

/-- The verdict on a request, where there is a filter and the client has an
address. -/
def Plan.verdict? (p : Plan) (r : Request) : Option Verdict :=
  p.filter.bind fun f => (clientAddress r.headers r.peer).map f.evaluate

/-- **The verdict that is passed** on a request on its arrival. Nobody passes one
where the time is over before anything has begun. -/
def Plan.passed? (p : Plan) (v : Arrival) : Option Verdict :=
  if p.Overdue v.clock then none else p.verdict? v.request

/-- Whether a plan turns a request away. -/
def Plan.TurnsAway (p : Plan) (r : Request) : Prop :=
  ∃ f, p.filter = some f ∧ Denied f r

instance (p : Plan) (r : Request) : Decidable (p.TurnsAway r) :=
  decidable_of_iff (p.filter.any fun f => Denied f r) (by
    rw [Option.any_eq_true]
    simp only [decide_eq_true_eq]
    rfl)

/-- Whether a request gets as far as a cache. -/
def Plan.reachesCache (p : Plan) (v : Arrival) : Bool :=
  !decide (p.Overdue v.clock) && p.cacheEnabled && (p.onward v.millis v.request).isSome

/-- The counters of a verdict. -/
def verdictCounters (v : Verdict) : List Counter :=
  if v.label = "lookup_failed" then [.lookupErrors, .decisions v.label]
  else [.decisions v.label]

/-- **A visit**: a request on its arrival, and the answer that it got. -/
structure Visit where
  arrival : Arrival
  answer : Response

namespace Visit

/-- The request of a visit. -/
def request (v : Visit) : Request := v.arrival.request

/-- **The counters that are incremented for a visit**, in this order. -/
def accounts (p : Plan) (v : Visit) (outcome : CacheOutcome) : List Counter :=
  (p.passed? v.arrival).toList.flatMap verdictCounters
    ++ (if p.reachesCache v.arrival then [.cacheLookups outcome] else [])
    ++ [.requests v.request.method.name v.answer.status.code, .durations]

/-- **What a report has to say about a visit**: the request, the status that the
client got, and the address of the client, or a dash where there is none. -/
def shown (v : Visit) : String × String × Nat × String :=
  (v.request.method.name, v.request.uri.path, v.answer.status.code,
    ((clientAddress v.request.headers v.request.peer).map Address.toText).getD "-")

end Visit

/-- What is reported of requests in a log, the latest first. -/
def reported (log : List Event) : List (String × String × Nat × String) :=
  (requestLines log).map fun l => (l.method, l.path, l.status, l.remoteAddress)

/-- **A visit that is recorded**: from the one scene to the other its counters
were incremented, and it was reported. If the plan turns it away, the filter has
answered it, unless the time was over. -/
structure Visit.Recorded (p : Plan) (v : Visit) (outcome : CacheOutcome)
    (s t : Scene β) : Prop where
  metrics : t.metrics = (v.accounts p outcome).foldl Metrics.increment s.metrics
  report : reported t.log = v.shown :: reported s.log
  refused : p.TurnsAway v.request →
    (v.answer = refusal v.request.method ↔ ¬ p.Overdue v.arrival.clock)

section Steps

variable {p : Plan} {files : Files.Disk} {choose : Chooser} {o : Responder β}
variable {q r : Request} {s t : Scene β} {a : Response}

/-- What a verdict leaves in the counters. -/
theorem counters_verdictNotes (address : Address) (v : Verdict) :
    (verdictNotes address v).counters = verdictCounters v := by
  cases v <;> rfl

theorem counters_screenNotes (p : Plan) (r : Request) :
    (p.screenNotes r).counters = (p.verdict? r).toList.flatMap verdictCounters := by
  unfold Plan.screenNotes Plan.verdict? screenNotes
  cases p.filter with
  | none => rfl
  | some f =>
    cases clientAddress r.headers r.peer with
    | none => rfl
    | some address =>
      show (verdictNotes address (f.evaluate address)).counters = _
      rw [counters_verdictNotes]
      exact (List.append_nil _).symm

/-! What is noted on the way is no report of a request. -/

theorem requestLines_screenNotes (p : Plan) (r : Request) :
    requestLines (p.screenNotes r).events = [] := by
  unfold Plan.screenNotes screenNotes
  split
  · next f _ =>
    cases clientAddress r.headers r.peer with
    | none => rfl
    | some address =>
      dsimp only
      have hnotes (v : Verdict) : requestLines (verdictNotes address v).events = [] := by
        cases v <;> rfl
      have hconsequence (v : Verdict) : requestLines (consequence f address v) = [] := by
        unfold consequence
        split
        · rfl
        · split
          · split <;> rfl
          · rfl
      rw [requestLines_append _ _ (hconsequence _), hnotes]
  · rfl

theorem requestLines_fileNotes (p : Plan) (i : Response) :
    requestLines (p.fileNotes i).events = [] := by
  unfold Plan.fileNotes fileNotes
  split
  · split
    · rfl
    · split <;> rfl
  · rfl

theorem counters_fileNotes (p : Plan) (i : Response) : (p.fileNotes i).counters = [] := by
  unfold Plan.fileNotes fileNotes
  split
  · split
    · rfl
    · split <;> rfl
  · rfl

/-- What is noted of files counts nothing. -/
theorem metrics_noted_fileNotes (p : Plan) (i : Response) (t : Scene β) :
    (t.noted (p.fileNotes i)).metrics = t.metrics := by
  unfold Scene.noted
  rw [counters_fileNotes, List.foldl_nil]

/-- The rule for tunnels has no accounts either. -/
def Responder.tunnelled (o : Responder β) : Responder β where
  answer := tunnelRule o.answer
  unaccounted r := (o.unaccounted r).bind fun _ => .pure _

/-- A cache reports no requests. -/
theorem Course.requestLines {y : Except Interrupt Response × Scene β}
    (hc : Course choose o.answer r s y) :
    Chain.requestLines y.2.log = Chain.requestLines s.log := by
  have hback {u t : Scene β} {x : Except Interrupt Response} (hon : HandedOn r s u)
      (hnext : o.answer r u = (x, t)) :
      Chain.requestLines t.log = Chain.requestLines s.log := by
    have ht := (o.unaccounted r).requestLines u
    rw [hnext] at ht
    rw [ht]
    cases hon <;> rfl
  cases hc with
  | hit => rfl
  | interrupted hon hnext | bypassed _ hon hnext | passed _ hon hnext
  | unbuffered _ hon hnext | overflowed _ hon hnext | kept _ hon hnext =>
    have ht := hback hon hnext
    exact ht

/-- **What lies inside counts a lookup**, where there is a cache, and reports
nothing. -/
theorem Plan.inside_accounts (p : Plan) (files : Files.Disk) (choose : Chooser)
    (o : Responder β) (q : Request) (s : Scene β) :
    let y := p.inside (world files choose) o.answer q s
    requestLines y.2.log = requestLines s.log
      ∧ y.2.metrics = (if p.cacheEnabled then [Counter.cacheLookups (outcomeAt q s)]
        else []).foldl Metrics.increment s.metrics := by
  intro y
  unfold y Plan.inside Plan.wrapIf
  split
  · have hcourse := caching_course files choose o.tunnelled.answer q s
    exact ⟨hcourse.requestLines, hcourse.metrics⟩
  · have hquiet := o.tunnelled.unaccounted q
    exact ⟨hquiet.requestLines s, hquiet.metrics s⟩

/-- What leaves has the status that was reported. -/
theorem status_conclude (method : Method) (a : Response) :
    (conclude method a).status = a.status := by
  have hlength : (withLength a).status = a.status := by
    unfold withLength
    split
    · rfl
    · split <;> rfl
  unfold conclude
  split
  · unfold closeTunnelBody
    split <;> rfl
  · dsimp only
    split <;> exact hlength

/-- Nothing is handed on of a request that is turned away. -/
theorem Plan.TurnsAway.onward_eq_none (h : p.TurnsAway r) (millis : Nat) :
    p.onward millis r = none := by
  obtain ⟨f, hfilter, hden⟩ := h
  unfold onward
  rw [hfilter]
  simp only [screen_of_denied hden]
  rfl

/-- It is answered by the filter. -/
theorem Plan.TurnsAway.ownAnswer_eq (h : p.TurnsAway r) :
    p.ownAnswer r = accessDenied := by
  obtain ⟨f, hfilter, hden⟩ := h
  unfold ownAnswer
  rw [hfilter]
  exact if_pos hden

/-- What says that the time is over is no refusal. -/
theorem conclude_requestTimeout_ne_refusal (method : Method) :
    conclude method (.bare .requestTimeout) ≠ refusal method := by
  intro h
  have hstatus : Status.requestTimeout = Status.forbidden :=
    (status_conclude method (.bare .requestTimeout)).symm.trans (congrArg Response.status h)
  exact absurd hstatus (by decide)

/-- A way that has come to its answer is recorded, if up to there the verdict and
the lookup were counted and nothing was reported. -/
theorem recorded_closed {v : Arrival} {a' : Response} (outcome : CacheOutcome)
    (hlog : p.logRequests = true)
    (hmetrics : t.metrics = (if p.reachesCache v then [Counter.cacheLookups outcome]
      else []).foldl Metrics.increment
        (((p.passed? v).toList.flatMap verdictCounters).foldl Metrics.increment s.metrics))
    (hlines : requestLines t.log = requestLines s.log)
    (hrefused : p.TurnsAway v.request →
      (conclude v.request.method a' = refusal v.request.method ↔ ¬ p.Overdue v.clock))
    (ha : (p.closed v.request a' t).1 = .ok a) :
    (⟨v, a⟩ : Visit).Recorded p outcome s (p.closed v.request a' t).2 := by
  have hanswer : a = conclude v.request.method a' := (Except.ok.inj ha).symm
  have hstatus : a.status = a'.status := by
    rw [hanswer]
    exact status_conclude _ _
  have hreport : p.reportNotes v.request a'
      = ⟨[.request (requestLine v.request a')],
        [.requests v.request.method.name a'.status.code, .durations]⟩ := if_pos hlog
  refine ⟨?_, ?_, fun haway => ?_⟩
  · show (p.reportNotes v.request a').counters.foldl Metrics.increment t.metrics = _
    unfold Visit.accounts Visit.request
    rw [hreport, hmetrics, hstatus, List.foldl_append, List.foldl_append]
  · show reported ((p.reportNotes v.request a').events ++ t.log) = _
    unfold reported Visit.shown Visit.request
    rw [hreport, ← hlines, hstatus]
    rfl
  · show a = refusal v.request.method ↔ _
    rw [hanswer]
    exact hrefused haway

/-- A way that leads inside is recorded, whatever comes of it there. -/
theorem recorded_of_inside {v : Arrival} {x : Except Interrupt Response} {u : Scene β}
    {a' : Response} (hlog : p.logRequests = true) (htime : ¬ p.Overdue v.clock)
    (hon : p.onward v.millis v.request = some q)
    (hinside : p.inside (world files choose) o.answer q (p.ahead v.request (v.enter s))
      = (x, t))
    (hmetrics : u.metrics = t.metrics) (hlines : requestLines u.log = requestLines t.log)
    (ha : (p.closed v.request a' u).1 = .ok a) :
    ∃ outcome, (⟨v, a⟩ : Visit).Recorded p outcome s (p.closed v.request a' u).2 := by
  have hreaches : p.reachesCache v = p.cacheEnabled := by
    unfold Plan.reachesCache
    rw [hon, Option.isSome_some, Bool.and_true, decide_eq_false htime, Bool.not_false,
      Bool.true_and]
  have hpassed : p.passed? v = p.verdict? v.request := if_neg htime
  obtain ⟨hlines', hmetrics'⟩ :=
    p.inside_accounts files choose o q (p.ahead v.request (v.enter s))
  rw [hinside] at hlines' hmetrics'
  refine ⟨outcomeAt q (p.ahead v.request (v.enter s)),
    recorded_closed _ hlog ?_ ?_ (fun haway => ?_) ha⟩
  · rw [hmetrics, hreaches, hpassed, ← counters_screenNotes]
    exact hmetrics'
  · rw [hlines, hlines']
    exact requestLines_append _ _ (requestLines_screenNotes p _)
  · rw [haway.onward_eq_none] at hon
    cases hon

/-- **Every visit is recorded**, whichever way the request takes. -/
theorem Plan.Journey.recorded {v : Arrival} {y : Except Interrupt Response × Scene β}
    (hlog : p.logRequests = true)
    (hj : p.Journey files choose o.answer v.request (v.enter s) y) (ha : y.1 = .ok a) :
    ∃ outcome, (⟨v, a⟩ : Visit).Recorded p outcome s y.2 := by
  -- where nobody is asked inside, no lookup is counted, and any outcome will do
  have hunreached (h : p.Overdue v.clock ∨ p.onward v.millis v.request = none) :
      p.reachesCache v = false := by
    unfold reachesCache
    rcases h with h | h
    · simp [h]
    · simp [h]
  have hnoted (i : Response) (t : Scene β) :
      (t.noted (p.fileNotes i)).metrics = t.metrics
        ∧ requestLines (t.noted (p.fileNotes i)).log = requestLines t.log := by
    exact ⟨metrics_noted_fileNotes p i t,
      requestLines_append _ _ (requestLines_fileNotes p i)⟩
  cases hj with
  | overdue htime =>
    have hpassed : p.passed? v = none := if_pos htime
    refine ⟨.miss, recorded_closed .miss hlog ?_ rfl (fun _ =>
      iff_of_false (conclude_requestTimeout_ne_refusal _) (not_not.mpr htime)) ha⟩
    rw [hunreached (.inl htime), hpassed]
    rfl
  | refused htime hon =>
    have hpassed : p.passed? v = p.verdict? v.request := if_neg htime
    refine ⟨.miss, recorded_closed .miss hlog ?_ ?_ (fun haway => ?_) ha⟩
    · rw [hunreached (.inr hon), hpassed, ← counters_screenNotes]
      rfl
    · exact requestLines_append _ _ (requestLines_screenNotes p _)
    · rw [haway.ownAnswer_eq, conclude_accessDenied]
      exact iff_of_true rfl htime
  | @answered q i t htime hon hinside | @unopened q i t htime hon hinside =>
    obtain ⟨hmetrics, hlines⟩ := hnoted i { t with left := (v.enter s).left }
    exact recorded_of_inside hlog htime hon hinside hmetrics hlines ha
  | late htime hon hinside => exact recorded_of_inside hlog htime hon hinside rfl rfl ha
  | abandoned => cases ha

/-- **Every run is recorded**, one visit after the other. -/
theorem recorded_run (hlog : p.logRequests = true) (arrivals : List Arrival)
    (answers : List Response) (s : Scene β)
    (hanswers : (runAll (p.serve (world files choose) o.answer) arrivals s).1
      = answers.map .ok) :
    let t := (runAll (p.serve (world files choose) o.answer) arrivals s).2
    ∃ seen : List (Visit × CacheOutcome),
      seen.map (·.1) = List.zipWith Visit.mk arrivals answers
        ∧ seen.map (·.1.arrival) = arrivals
        ∧ t.metrics = (seen.flatMap fun v => v.1.accounts p v.2).foldl Metrics.increment
          s.metrics
        ∧ reported t.log = (seen.map (·.1.shown)).reverse ++ reported s.log
        ∧ ∀ v ∈ seen, p.TurnsAway v.1.request →
          (v.1.answer = refusal v.1.request.method ↔ ¬ p.Overdue v.1.arrival.clock) := by
  induction arrivals generalizing answers s with
  | nil =>
    obtain rfl : answers = [] := List.map_eq_nil_iff.mp hanswers.symm
    exact ⟨[], rfl, rfl, rfl, rfl, fun v hv => absurd hv List.not_mem_nil⟩
  | cons v rest ih =>
    rw [runAll_cons] at hanswers
    cases answers with
    | nil => cases hanswers
    | cons a answers =>
      obtain ⟨ha, hrest⟩ := List.cons_eq_cons.mp hanswers
      obtain ⟨outcome, hvisit⟩ := Plan.Journey.recorded hlog
        (Plan.serve_journey p files choose o.answer v.request (v.enter s)) ha
      obtain ⟨seen, hseen, harrivals, hmetrics, hreported, hrefused⟩ := ih answers _ hrest
      refine ⟨(⟨v, a⟩, outcome) :: seen, ?_, ?_, ?_, ?_, ?_⟩
      · rw [List.map_cons, hseen, List.zipWith_cons_cons]
      · rw [List.map_cons, harrivals]
      · rw [runAll_cons_snd, hmetrics, hvisit.metrics, List.flatMap_cons, List.foldl_append]
      · rw [runAll_cons_snd, hreported, hvisit.report, List.map_cons, List.reverse_cons,
          List.append_assoc, List.singleton_append]
      · intro w hw
        rcases List.mem_cons.mp hw with rfl | hw
        · exact hvisit.refused
        · exact hrefused w hw

end Steps

/-! ## What a counter stands at -/

section Counting

variable {α : Type} (p : Plan) (v : Visit) (outcome : CacheOutcome)

/-- A sum of ones and zeros counts the ones. -/
theorem sum_map_eq_countP {f : α → Nat} {P : α → Prop} [DecidablePred P]
    (hf : ∀ a, f a = if P a then 1 else 0) (l : List α) :
    (l.map f).sum = l.countP fun a => P a := by
  induction l with
  | nil => rfl
  | cons a rest ih =>
    rw [List.map_cons, List.sum_cons, ih, hf, List.countP_cons, Nat.add_comm]
    simp only [decide_eq_true_eq]

/-- A counter of a visit is that of its verdict, of its lookup, or of its end. -/
theorem count_accounts (c : Counter) :
    (v.accounts p outcome).count c
      = ((p.passed? v.arrival).toList.flatMap verdictCounters).count c
        + (if p.reachesCache v.arrival then [Counter.cacheLookups outcome] else []).count c
        + [Counter.requests v.request.method.name v.answer.status.code, .durations].count c := by
  unfold Visit.accounts
  rw [List.count_append, List.count_append]

/-- A verdict is counted under its label, and a failed lookup as a failure as
well. -/
theorem count_verdictCounters (v? : Option Verdict) (c : Counter) :
    (v?.toList.flatMap verdictCounters).count c = match c with
      | .decisions label => if v?.any (·.label = label) then 1 else 0
      | .lookupErrors => if v?.any (·.label = "lookup_failed") then 1 else 0
      | _ => 0 := by
  cases v? with
  | none => cases c <;> rfl
  | some v =>
    rw [Option.toList_some, List.flatMap_singleton]
    unfold verdictCounters
    by_cases hlabel : v.label = "lookup_failed"
    · rw [if_pos hlabel]
      cases c <;> simp [List.count_cons, hlabel]
    · rw [if_neg hlabel]
      cases c <;> simp [List.count_cons, hlabel]

/-- Every visit is counted as one request. -/
theorem count_accounts_requests (method : String) (status : Nat) :
    (v.accounts p outcome).count (.requests method status)
      = if v.request.method.name = method ∧ v.answer.status.code = status then 1 else 0 := by
  rw [count_accounts, count_verdictCounters]
  cases p.reachesCache v.arrival <;> simp [List.count_cons]

/-- Every visit is measured. -/
theorem count_accounts_durations : (v.accounts p outcome).count .durations = 1 := by
  rw [count_accounts, count_verdictCounters]
  cases p.reachesCache v.arrival <;> simp

/-- A visit on which a verdict is passed is counted under its label. -/
theorem count_accounts_decisions (label : String) :
    (v.accounts p outcome).count (.decisions label)
      = if (p.passed? v.arrival).any (·.label = label) then 1 else 0 := by
  rw [count_accounts, count_verdictCounters]
  cases p.reachesCache v.arrival <;> simp

/-- A visit whose lookup failed is counted as a failure as well. -/
theorem count_accounts_lookupErrors :
    (v.accounts p outcome).count .lookupErrors
      = (v.accounts p outcome).count (.decisions "lookup_failed") := by
  rw [count_accounts, count_accounts, count_verdictCounters, count_verdictCounters]
  cases p.reachesCache v.arrival <;> simp

/-- A visit that gets as far as a cache has one outcome there. -/
theorem count_accounts_lookups :
    (v.accounts p outcome).count (.cacheLookups .hit)
        + (v.accounts p outcome).count (.cacheLookups .miss)
        + (v.accounts p outcome).count (.cacheLookups .bypass)
      = if p.reachesCache v.arrival then 1 else 0 := by
  rw [count_accounts, count_accounts, count_accounts, count_verdictCounters,
    count_verdictCounters, count_verdictCounters]
  cases p.reachesCache v.arrival <;> cases outcome <;> simp

end Counting

/-- Whom a plan turns away has a verdict that is counted as a denial. -/
theorem Plan.turnsAway_iff (p : Plan) (r : Request) :
    p.TurnsAway r ↔ (p.verdict? r).any (·.label = "denied") = true := by
  have hlabel (v : Verdict) : v.isDenied = true ↔ v.label = "denied" := by
    cases v <;> simp [Verdict.isDenied, Verdict.label]
  unfold TurnsAway verdict?
  cases p.filter with
  | none => simp
  | some f =>
    simp only [Option.some.injEq, exists_eq_left', Option.bind_some]
    cases hc : clientAddress r.headers r.peer with
    | none => simp [not_denied_of_none hc]
    | some address => simp [denied_iff_of_some hc, hlabel]

/-- A verdict that is passed is the one on the client. -/
theorem Plan.any_passed? (p : Plan) (v : Arrival) (label : String) :
    (p.passed? v).any (·.label = label) = true
      ↔ ¬ p.Overdue v.clock ∧ (p.verdict? v.request).any (·.label = label) = true := by
  unfold passed?
  split
  · next htime => simp [htime]
  · next htime => simp [htime]

/-- **The records agree with what clients saw.** Take a plan that reports
requests, whatever answers behind it without accounts, and a run of requests in
which every one is answered.

There is one report for each request, in their order, with the status that the
client got and the address that the filter goes by. The counters of requests and
of measurements stand at the numbers of such answers. A label of a verdict stands
at the number of requests with this verdict whose time was not over before anything
began; the denials are those that the filter has answered. Failed lookups stand at
their label, and the three outcomes at the cache together at the number of requests
that were handed on to it. -/
theorem serve_tally (p : Plan) (o : Responder β) (files : Files.Disk) (choose : Chooser)
    (store : Store) (state : β) (arrivals : List Arrival) (answers : List Response)
    (hlog : p.logRequests = true)
    (hanswers : (runAll (p.serve (world files choose) o.answer) arrivals
      (.start store state)).1 = answers.map .ok) :
    let t := (runAll (p.serve (world files choose) o.answer) arrivals
      (.start store state)).2
    let seen := List.zipWith Visit.mk arrivals answers
    seen.map (·.arrival) = arrivals
      ∧ (reported t.log).reverse = seen.map Visit.shown
      ∧ (∀ method status, t.metrics.count (.requests method status)
        = seen.countP fun v => v.request.method.name = method ∧ v.answer.status.code = status)
      ∧ t.metrics.count .durations = seen.length
      ∧ (∀ label, t.metrics.count (.decisions label)
        = seen.countP fun v => ¬ p.Overdue v.arrival.clock
          ∧ (p.verdict? v.request).any (·.label = label))
      ∧ t.metrics.count (.decisions "denied")
        = seen.countP (fun v => p.TurnsAway v.request ∧ v.answer = refusal v.request.method)
      ∧ t.metrics.count .lookupErrors = t.metrics.count (.decisions "lookup_failed")
      ∧ t.metrics.count (.cacheLookups .hit) + t.metrics.count (.cacheLookups .miss)
          + t.metrics.count (.cacheLookups .bypass)
        = seen.countP fun v => p.reachesCache v.arrival := by
  intro t seen
  obtain ⟨told, hseen, harrivals, hmetrics, hreported, hrefused⟩ :=
    recorded_run hlog arrivals answers (.start store state) hanswers
  have hseen : told.map (·.1) = seen := hseen
  have hmetrics : t.metrics
      = (told.flatMap fun v => v.1.accounts p v.2).foldl Metrics.increment .empty := hmetrics
  have hreported : reported t.log = (told.map (·.1.shown)).reverse ++ [] := hreported
  -- from here on it does not matter how the run was made
  clear_value t seen
  have hcount (c : Counter) : t.metrics.count c
      = (told.map fun v => (v.1.accounts p v.2).count c).sum := by
    rw [hmetrics, Metrics.count_foldl_increment, List.count_flatMap]
    exact Nat.zero_add _
  -- how often a counter stands in the accounts of a visit is seen from the visit
  have hcountP (c : Counter) (P : Visit → Prop) [DecidablePred P]
      (hP : ∀ v outcome, (v.accounts p outcome).count c = if P v then 1 else 0) :
      t.metrics.count c = seen.countP fun v => P v := by
    rw [hcount, sum_map_eq_countP fun v => hP v.1 v.2, ← hseen, List.countP_map]
    rfl
  have hdecisions (label : String) := hcountP (.decisions label) _
    fun v outcome => (count_accounts_decisions p v outcome label).trans
      (if_congr (p.any_passed? v.arrival label) rfl rfl)
  refine ⟨?_, ?_, fun method status => ?_, ?_, hdecisions, ?_, ?_, ?_⟩
  · rw [← hseen, List.map_map]
    exact harrivals
  · rw [hreported, List.append_nil, List.reverse_reverse, ← hseen, List.map_map]
    rfl
  · exact hcountP _ _ fun v outcome => count_accounts_requests p v outcome method status
  · rw [hcountP .durations (fun _ => True) fun v outcome => count_accounts_durations p v outcome]
    simp
  · rw [hdecisions "denied", ← hseen, List.countP_map, List.countP_map]
    refine List.countP_congr fun v hv => ?_
    simp only [Function.comp_apply, decide_eq_true_eq, ← Plan.turnsAway_iff]
    exact ⟨fun ⟨htime, haway⟩ => ⟨haway, (hrefused v hv haway).mpr htime⟩,
      fun ⟨haway, hrefusal⟩ => ⟨(hrefused v hv haway).mp hrefusal, haway⟩⟩
  · rw [hcount, hcount]
    simp only [count_accounts_lookupErrors]
  · have hlookups (v : Visit × CacheOutcome) := count_accounts_lookups p v.1 v.2
    calc t.metrics.count (.cacheLookups .hit) + t.metrics.count (.cacheLookups .miss)
          + t.metrics.count (.cacheLookups .bypass)
        = (told.map fun v => (v.1.accounts p v.2).count (.cacheLookups .hit)
            + (v.1.accounts p v.2).count (.cacheLookups .miss)
            + (v.1.accounts p v.2).count (.cacheLookups .bypass)).sum := by
          rw [hcount, hcount, hcount, List.sum_map_add, List.sum_map_add]
      _ = told.countP fun v => p.reachesCache v.1.arrival := by
          rw [sum_map_eq_countP hlookups]
          simp only [Bool.decide_eq_true]
      _ = seen.countP fun v => p.reachesCache v.arrival := by
          rw [← hseen, List.countP_map]
          rfl

/-- Two visits, the first from an address that is turned away and the second from
nowhere. -/
def twoVisits : List Arrival := [⟨visit .get, ⟨0⟩, 0⟩, pageAfter 1]

/-- Their answers. -/
def twoAnswers : List Response :=
  [refusal .get, ⟨.ok, ⟨[⟨cacheHeader, Bytes.ofString "miss"⟩,
    ⟨"content-length", Bytes.ofString "0"⟩]⟩, Body.empty⟩]

/-- What is in the records after two visits to a complete chain. -/
theorem serve_tally_two :
    let p : Plan := { everyLayer with filter := some elsewhere }
    let o := Responder.ofForwarder .empty (fun _ => 0) germanGate.forwarder answering
    let run := runAll (p.serve (world .empty fun _ => 0) o.answer) twoVisits
      (.start (.empty 1000 100) 0)
    p.logRequests = true
      ∧ run.1 = twoAnswers.map .ok
      ∧ (reported run.2.log).reverse
        = [("GET", "/page", 403, "203.0.113.1"), ("GET", "/page", 200, "-")]
      ∧ run.2.metrics.count (.decisions "denied") = 1
      ∧ run.2.metrics.count (.cacheLookups .hit) + run.2.metrics.count (.cacheLookups .miss)
          + run.2.metrics.count (.cacheLookups .bypass) = 1 := by
  intro p o run
  have hanswers : run.1 = twoAnswers.map .ok := by decide +kernel
  obtain ⟨-, hreported, -, -, -, hdenied, -, hlookups⟩ := serve_tally p o .empty
    (fun _ => 0) (.empty 1000 100) 0 twoVisits twoAnswers rfl hanswers
  refine ⟨rfl, hanswers, hreported.trans ?_, hdenied.trans ?_,
    hlookups.trans ?_⟩ <;> decide +kernel

/-- A filter for one country that finds everybody there. -/
def home : Filter := ⟨Policy.ofLists ["US"] [], fun _ => .ok (some "US")⟩

/-- **A verdict that nobody counts.** With no time at all a request that arrives
at a whole millisecond is answered before the filter is asked. -/
theorem verdict_uncounted :
    let p : Plan := { everyLayer with requestSecs := 0, filter := some home }
    let run := runAll (p.serve (world .empty fun _ => 0) (ask counting))
      [⟨visit .get, ⟨0⟩, 0⟩] opening
    p.logRequests = true ∧ (∃ a, run.1 = [.ok a])
      ∧ (p.verdict? (visit .get)).map Verdict.label = some "allowed"
      ∧ run.2.metrics.count (.decisions "allowed") = 0 :=
  ⟨rfl, ⟨_, rfl⟩, by decide +kernel, by decide +kernel⟩

end Chain

end Gatehouse
