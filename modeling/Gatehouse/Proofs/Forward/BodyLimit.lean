import Gatehouse.Proofs.Chain.Filing
import Gatehouse.Proofs.Chain.Residue
import Gatehouse.Proofs.Forward.Frame

/-!
# The limit for bodies

A client announces how long its body is, or does not, and may then send another
one. So the limit has to hold twice. A request that announces too much is
answered before anybody behind the limit hears of it. The body of any other
request can be read up to the limit and up to what was announced, where reading
a longer one fails, so that nobody takes the part that there is for the whole.

That nobody hears of a request is more than a statement about the answer. A
backend may refuse a body itself, with the same status. What tells the two apart
is what has happened behind the limit: a cache counts every request that reaches
it (`Plan.Journey.count_lookups`), and without a cache the backend meets the
request, or the forwarder answers that it cannot be addressed, which is another
status.
-/

namespace Gatehouse.Chain

open Http Cache Country Exchange

variable {β : Type}

/-! ## What is announced -/

/-- **A request that announces more than the limit.** What is no number
announces nothing. -/
def Plan.Oversized (p : Plan) (r : Request) : Prop :=
  ∃ n, declaredLength? r = some n ∧ p.maxRequestBody < n

/-- A body that is allowed is no longer than the limit and than announced. -/
theorem le_allowance_iff {limit length : Nat} {r : Request} :
    length ≤ allowance limit r
      ↔ length ≤ limit ∧ ∀ n, declaredLength? r = some n → length ≤ n := by
  unfold allowance
  cases declaredLength? r with
  | none => simp
  | some n => simp

theorem allowance_le (limit : Nat) (r : Request) : allowance limit r ≤ limit :=
  (le_allowance_iff.mp le_rfl).1

section Plans

variable {p : Plan} {r : Request} {millis : Nat}

/-- **Nothing is handed on** exactly if too much is announced, where no filter
turns the request away. -/
theorem Plan.onward_eq_none_iff_oversized (hlimit : 0 < p.maxRequestBody)
    (hpass : ¬ p.TurnsAway r) :
    p.onward millis r = none ↔ p.Oversized r := by
  constructor
  · intro hnone
    by_contra hfits
    refine Plan.onward_ne_none (fun f hfilter hden => hpass ⟨f, hfilter, hden⟩)
      (fun _ n hn => ?_) hnone
    exact Nat.le_of_not_lt fun hover => hfits ⟨n, hn, hover⟩
  · rintro ⟨n, hn, hover⟩
    exact Plan.onward_eq_none_of_oversized hlimit hn hover

/-- The chain then answers that it is too large. -/
theorem Plan.ownAnswer_of_not_turnsAway (hpass : ¬ p.TurnsAway r) :
    p.ownAnswer r = tooLarge := by
  unfold ownAnswer
  cases hfilter : p.filter with
  | none => rfl
  | some f => exact if_neg fun hden => hpass ⟨f, hfilter, hden⟩

/-- **Too much is refused on the way in**: the verdict is noted, the answer is
reported, and nothing else has happened. -/
theorem Plan.Journey.eq_of_oversized {files : Files.Disk} {choose : Chooser}
    {inner : Handler (Exchange β)} {s : Scene β} {y : Except Interrupt Response × Scene β}
    (hj : p.Journey files choose inner r s y) (htime : ¬ p.Overdue s.clock)
    (hlimit : 0 < p.maxRequestBody) (hpass : ¬ p.TurnsAway r) (hover : p.Oversized r) :
    y = p.closed r tooLarge (s.noted (p.screenNotes r)) := by
  have hnone : p.onward s.millis r = none :=
    (Plan.onward_eq_none_iff_oversized hlimit hpass).mpr hover
  cases hj with
  | overdue htime' => exact absurd htime' htime
  | refused => rw [Plan.ownAnswer_of_not_turnsAway hpass]
  | answered _ hon | unopened _ hon | late _ hon | abandoned _ hon =>
    rw [hnone] at hon
    cases hon

end Plans

/-! ## What a cache counts -/

section Counting

variable {p : Plan} {files : Files.Disk} {choose : Chooser} {o : Responder β}
variable {r : Request} {s : Scene β} {y : Except Interrupt Response × Scene β}

theorem count_screenNotes (p : Plan) (r : Request) (c : CacheOutcome) :
    (p.screenNotes r).counters.count (.cacheLookups c) = 0 := by
  rw [List.count_eq_zero, counters_screenNotes]
  intro hmem
  obtain ⟨v, -, hv⟩ := List.mem_flatMap.mp hmem
  unfold verdictCounters at hv
  split at hv <;> simp at hv

theorem count_reportNotes (p : Plan) (r : Request) (a : Response) (c : CacheOutcome) :
    (p.reportNotes r a).counters.count (.cacheLookups c) = 0 := by
  unfold Plan.reportNotes
  split <;> rfl

/-- What is noted of lookups at the end of a way is what was noted before. -/
theorem count_closed (p : Plan) (r : Request) (a : Response) (s : Scene β)
    (c : CacheOutcome) :
    (p.closed r a s).2.metrics.count (.cacheLookups c)
      = s.metrics.count (.cacheLookups c) := by
  show (s.noted (p.reportNotes r a)).metrics.count _ = _
  rw [Scene.count_noted, count_reportNotes, Nat.add_zero]

/-- On the way to what lies inside, the cache is not looked at. -/
theorem outcomeAt_of_onward {q : Request} (hon : p.onward s.millis r = some q) :
    outcomeAt q (p.ahead r s) = outcomeAt r s := by
  unfold outcomeAt
  rw [Plan.key?_of_onward hon]
  rfl

/-- **A lookup is counted** for every request that is handed on where there is a
cache, as what it is, and none for any other. -/
theorem Plan.Journey.count_lookups (hj : p.Journey files choose o.answer r s y)
    (htime : ¬ p.Overdue s.clock) (c : CacheOutcome) :
    y.2.metrics.count (.cacheLookups c)
      = s.metrics.count (.cacheLookups c)
        + if p.cacheEnabled = true ∧ p.onward s.millis r ≠ none ∧ outcomeAt r s = c then 1
          else 0 := by
  have hnoted : (s.noted (p.screenNotes r)).metrics.count (.cacheLookups c)
      = s.metrics.count (.cacheLookups c) := by
    rw [Scene.count_noted, count_screenNotes, Nat.add_zero]
  have hinside {q : Request} {x : Except Interrupt Response} {t : Scene β}
      (hon : p.onward s.millis r = some q)
      (hx : p.inside (world files choose) o.answer q (p.ahead r s) = (x, t)) :
      t.metrics.count (.cacheLookups c) = s.metrics.count (.cacheLookups c)
        + if p.cacheEnabled = true ∧ p.onward s.millis r ≠ none ∧ outcomeAt r s = c then 1
          else 0 := by
    have hmetrics := (p.inside_accounts files choose o q (p.ahead r s)).2
    rw [hx] at hmetrics
    have hahead : (p.ahead r s).metrics.count (.cacheLookups c)
        = s.metrics.count (.cacheLookups c) := hnoted
    rw [hmetrics, Metrics.count_foldl_increment, hahead, outcomeAt_of_onward hon, hon]
    congr 1
    cases p.cacheEnabled <;> simp [List.count_cons]
  cases hj with
  | overdue htime' => exact absurd htime' htime
  | refused _ hon =>
    rw [count_closed, hnoted, if_neg fun h => h.2.1 hon, Nat.add_zero]
  | @answered q i t _ hon hx | @unopened q i t _ hon hx =>
    have hcount := hinside hon hx
    rw [count_closed, metrics_noted_fileNotes]
    exact hcount
  | late _ hon hx =>
    have hcount := hinside hon hx
    rw [count_closed]
    exact hcount
  | abandoned _ hon hx =>
    have hcount := hinside hon hx
    exact hcount

/-- Where no hit is counted, nothing is found. -/
theorem Plan.Journey.not_found_of_count {q : Request}
    (hj : p.Journey files choose o.answer r s y) (htime : ¬ p.Overdue s.clock)
    (hcache : p.cacheEnabled = true)
    (hon : p.onward s.millis r = some q)
    (hcount : y.2.metrics.count (.cacheLookups .hit) = s.metrics.count (.cacheLookups .hit)) :
    ¬ Found q s := by
  rintro ⟨key, e, hkey, hget⟩
  rw [Plan.key?_of_onward hon] at hkey
  have hcounted := hj.count_lookups htime .hit
  rw [if_pos ⟨hcache, hon ▸ Option.some_ne_none q, outcomeAt_of_hit hkey hget⟩] at hcounted
  exact absurd (hcounted.symm.trans hcount) (Nat.succ_ne_self _)

end Counting

/-! ## Statuses on the way out -/

/-- A response that names no file leaves with its status. -/
theorem Plan.status_outward_of_nil (p : Plan) (files : Files.Disk) (q : Request)
    {i : Response} (hnil : i.headers.values sendfileHeader = []) :
    (p.outward files q i).status = i.status := by
  have hserved : (if p.xSendfile then filed files q i else i) = i := by
    rw [(filed_of_nil hnil files).1, ite_self]
  unfold outward
  dsimp only
  rw [hserved]
  split
  · exact status_encoded q.headers i
  · rfl

end Gatehouse.Chain

namespace Gatehouse.Forward

open Http Chain Exchange

variable {β : Type}

/-! ## What a forwarder answers itself -/

/-- **A request that cannot be addressed** is answered by the forwarder, who says
that there is no such page or that the request is none. -/
theorem handle_of_unaddressed (files : Files.Disk) (choose : Cache.Chooser)
    (f : Forwarder) (connect : Connector (Exchange β)) {r : Request} (s : Scene β)
    (hnone : (if Forwarder.hasPath r then f.outgoing? r else none) = none) :
    ∃ i t, f.handle (world files choose) connect r s = (.ok i, t)
      ∧ (i = .bare .notFound ∨ i = .text .badRequest "Bad request") := by
  unfold Forwarder.handle
  cases hpath : Forwarder.hasPath r with
  | false => exact ⟨_, _, rfl, Or.inl rfl⟩
  | true =>
    rw [hpath] at hnone
    have hout : f.outgoing? r = none := hnone
    show ∃ i t, f.forward (world files choose) connect r s = (.ok i, t) ∧ _
    unfold Forwarder.forward
    rw [hout]
    exact ⟨_, _, rfl, Or.inr rfl⟩

end Gatehouse.Forward

namespace Gatehouse

open Http Cache Chain Forward Exchange

variable {β : Type}

section Server

variable {v : Server} {files : Files.Disk} {choose : Chooser} {r q : Request}

/-- **That a request cannot be addressed** shows in the status, where there is no
cache. -/
theorem Server.status_of_unaddressed (connect : Connector (Exchange β)) {s : Scene β}
    (htime : ¬ v.plan.Overdue s.clock) (hcache : v.plan.cacheEnabled = false)
    (hon : v.plan.onward s.millis r = some q)
    (hnone : (if Forwarder.hasPath q then v.forwarder.outgoing? q else none) = none)
    {a : Response} (ha : (v.serve (world files choose) connect r s).1 = .ok a) :
    a.status ≠ .contentTooLarge := by
  obtain ⟨i, t, hi, hown⟩ := handle_of_unaddressed files choose v.forwarder connect
    (v.plan.ahead r s) hnone
  have hplain : i.headers.values sendfileHeader = [] ∧ opensTunnel q.method i = false
      ∧ i.status ≠ .contentTooLarge := by
    rcases hown with rfl | rfl
    · exact ⟨rfl, Bool.and_false _, by decide⟩
    · exact ⟨rfl, Bool.and_false _, by decide⟩
  obtain ⟨hnil, htunnel, hstatus⟩ := hplain
  have hinside : v.plan.inside (world files choose)
      (v.forwarder.handle (world files choose) connect) q (v.plan.ahead r s) = (.ok i, t) := by
    unfold Plan.inside Plan.wrapIf
    rw [hcache, if_neg Bool.false_ne_true]
    unfold tunnelRule
    rw [bind_apply_ok hi, htunnel]
    rfl
  have hdelay : v.plan.filingDelay files q i = 0 := by
    unfold Plan.filingDelay
    rw [(filed_of_nil hnil files).2, ite_self]
  have hanswer : (v.serve (world files choose) connect r s).1
      = .ok (conclude r.method (v.plan.outward files q i)) := by
    show (v.plan.serve (world files choose) _ r s).1 = _
    rw [Plan.serve_fst]
    simp only [if_neg htime, hon, hinside, hdelay, if_pos (allows_zero t)]
  rw [hanswer] at ha
  cases ha
  rw [status_conclude, Plan.status_outward_of_nil _ _ _ hnil]
  exact hstatus

/-- **A request that is handed on is noticed**: a lookup is counted for it, or
the backend meets it, or the answer is not that it is too large. -/
theorem Server.noticed_of_onward (l : Line β) {s : Scene (β × List Request)}
    (htime : ¬ v.plan.Overdue s.clock) (hon : v.plan.onward s.millis r = some q)
    (huncounted : ∀ c, (v.serve (world files choose) (dial (noting l)) r s).2.metrics.count
        (.cacheLookups c) = s.metrics.count (.cacheLookups c))
    (hunmet : (v.serve (world files choose) (dial (noting l)) r s).2.backend.2 = s.backend.2)
    {a : Response} (ha : (v.serve (world files choose) (dial (noting l)) r s).1 = .ok a) :
    a.status ≠ .contentTooLarge := by
  cases hcache : v.plan.cacheEnabled with
  | true =>
    have hjourney := v.plan.serve_journey files choose
      (Responder.ofForwarder files choose v.forwarder (noting l)).answer r s
    have hcount := hjourney.count_lookups htime (outcomeAt r s)
    rw [if_pos ⟨hcache, hon ▸ Option.some_ne_none q, rfl⟩] at hcount
    exact absurd (hcount.symm.trans (huncounted _)) (Nat.succ_ne_self _)
  | false =>
    refine Server.status_of_unaddressed (dial (noting l)) htime hcache hon ?_ ha
    have hasked := v.asked_serve files choose (dial (noting l)) r s
    rcases hasked.met (notes_dial l) with hseen | ⟨hspare, -⟩
    · rw [hunmet, hon, Option.bind_some, List.self_eq_append_right] at hseen
      exact Option.toList_eq_nil_iff.mp hseen
    · exact absurd (hcache.symm.trans (hspare.resolve_left htime).1) Bool.false_ne_true

end Server

/-- **The limit for bodies**, for every server that has one, and every request
that no filter turns away and whose time is not over before anything has begun,
whatever it announces, whatever it sends, and whatever was asked before.

A request is answered that it is too large, without a lookup in the cache and
without the backend having met it, exactly if it announces a number above the
limit. All that happens then is that the verdict of the filter is noted and the
answer is reported.

Of any other request the backend can read no more than the limit. A body that is
neither longer than that nor longer than announced arrives as it is. Of a longer
one the frames that fit can be read, and then reading fails. The backend does meet
the request if it can be addressed, unless the cache has an answer, which it then
counts. -/
theorem Server.serve_bodyLimit (v : Server) (files : Files.Disk) (choose : Chooser)
    (l : Line β) (r : Request) (s : Scene β) (htime : ¬ v.plan.Overdue s.clock)
    (hlimit : 0 < v.plan.maxRequestBody) (hpass : ¬ v.plan.TurnsAway r) :
    let start := s.withBackend (s.backend, ([] : List Request))
    let y := v.serve (world files choose) (dial (noting l)) r start
    let met := meetings (v.serve (world files choose) (dial (noting l))) r s
    let allowed := r.body.data.length ≤ v.plan.maxRequestBody
      ∧ ∀ n, declaredLength? r = some n → r.body.data.length ≤ n
    ((∃ a, y.1 = .ok a ∧ a.status = .contentTooLarge)
        ∧ (∀ c, y.2.metrics.count (.cacheLookups c) = s.metrics.count (.cacheLookups c))
        ∧ met = []
      ↔ v.plan.Oversized r)
    ∧ (v.plan.Oversized r →
      y = v.plan.closed r Plan.tooLarge (start.noted (v.plan.screenNotes r)))
    ∧ (∀ out ∈ met, out.body.data.length ≤ v.plan.maxRequestBody
      ∧ (allowed → out.body = r.body)
      ∧ (¬ allowed → out.body.data <+: r.body.data ∧ out.body.read? = none))
    ∧ (¬ v.plan.Oversized r → Forwarder.hasPath r = true →
      v.forwarder.target.uriFor? r.uri ≠ none →
      y.2.metrics.count (.cacheLookups .hit) = s.metrics.count (.cacheLookups .hit) →
      met.length = 1) := by
  intro start y met allowed
  have hjourney : v.plan.Journey files choose
      (Responder.ofForwarder files choose v.forwarder (noting l)).answer r start y :=
    v.plan.serve_journey files choose _ r start
  have honward : v.plan.onward start.millis r = none ↔ v.plan.Oversized r :=
    Plan.onward_eq_none_iff_oversized hlimit hpass
  have hrefused := hjourney.eq_of_oversized htime hlimit hpass
  refine ⟨⟨?_, fun hover => ⟨⟨_, congrArg Prod.fst (hrefused hover), ?_⟩, fun c => ?_, ?_⟩⟩,
    hrefused, fun out hout => ?_, fun hfits hpath huri hcount => ?_⟩
  -- what is counted and met tells a refusal by the chain from one by the backend
  · rintro ⟨⟨a, ha, hstatus⟩, huncounted, hunmet⟩
    refine honward.mp ?_
    by_contra hsome
    obtain ⟨q, hon⟩ := Option.ne_none_iff_exists'.mp hsome
    exact Server.noticed_of_onward l htime hon huncounted hunmet ha hstatus
  · rw [status_conclude]
    rfl
  · have hcount := hjourney.count_lookups htime c
    rwa [if_neg fun h => h.2.1 (honward.mpr hover), Nat.add_zero] at hcount
  · show y.2.backend.2 = []
    rw [hrefused hover]
    rfl
  · obtain ⟨-, hshort, hlong, -⟩ := Server.serve_frame v files choose l r s out hout
    by_cases hallowed : allowed
    · have hbody := hshort fun _ => le_allowance_iff.mpr hallowed
      rw [hbody]
      exact ⟨hallowed.1, fun _ => rfl, fun hnot => absurd hallowed hnot⟩
    · have hbody := hlong hlimit (Nat.lt_of_not_le fun h => hallowed (le_allowance_iff.mp h))
      rw [hbody]
      refine ⟨?_, fun h => absurd h hallowed, fun _ => ⟨List.take_prefix _ _, rfl⟩⟩
      exact (List.length_take_le _ _).trans
        ((Body.fitting_le _ _).trans (allowance_le _ r))
  · refine Server.length_meetings_of_not_found files choose l s htime
      (fun hcache q hon => ?_) (fun hnone => hfits (honward.mp hnone)) hpath huri
    have hnot : ¬ Found q start := hjourney.not_found_of_count htime hcache hon hcount
    exact hnot

/-- A client that announces so much, and sends something else. -/
def announcing (length body : String) : Request :=
  { posting body with
    headers := (posting body).headers.append "content-length" (Bytes.ofString length) }

/-- What becomes of three bodies at a limit of eight bytes: one of them is
announced to be too long, one is longer than announced, and one is neither. -/
theorem Server.serve_bodyLimit_announcing :
    (∃ a, (germanGate.serve (world .empty fun _ => 0) (dial (noting answering))
        (announcing "32" "short") (opening.withBackend (opening.backend, []))).1 = .ok a
      ∧ a.status = .contentTooLarge)
    ∧ (∃ out ∈ meetings (germanGate.serve (world .empty fun _ => 0)
        (dial (noting answering))) (announcing "3" "short") opening,
      out.body.read? = none)
    ∧ ∃ out ∈ meetings (germanGate.serve (world .empty fun _ => 0)
        (dial (noting answering))) (announcing "5" "short") opening,
      out.body = Body.ofString "short" := by
  have hpass (length : String) : ¬ germanGate.plan.TurnsAway (announcing length "short") := by
    rintro ⟨_, ⟨⟩, hden⟩
    exact absurd hden (show ¬ Denied inGermany (posting "short") by decide +kernel)
  have htime : ¬ germanGate.plan.Overdue opening.clock :=
    Plan.not_overdue_of_pos (by decide) _
  have hserved (length : String) := Server.serve_bodyLimit germanGate .empty (fun _ => 0)
    answering (announcing length "short") opening htime (by decide) (hpass length)
  have hmet (length : String) (n : Nat) (hn : declaredLength? (announcing length "short") = some n)
      (hle : n ≤ 8) : ∃ out, out ∈ meetings (germanGate.serve (world .empty fun _ => 0)
        (dial (noting answering))) (announcing length "short") opening := by
    have honward : germanGate.plan.onward opening.millis (announcing length "short") ≠ none := by
      intro hnone
      obtain ⟨m, hm, hover⟩ := (Plan.onward_eq_none_iff_oversized (by decide)
        (hpass length)).mp hnone
      rw [hn] at hm
      cases hm
      exact absurd hover (Nat.not_lt.mpr hle)
    have hone := Server.length_meetings .empty (fun _ => 0) answering opening htime rfl honward
      (show Forwarder.hasPath (posting "short") = true by decide +kernel)
      (show germanGate.forwarder.target.uriFor? (posting "short").uri ≠ none by decide +kernel)
    exact List.exists_mem_of_length_pos (hone.symm ▸ Nat.one_pos)
  have hthree : declaredLength? (announcing "3" "short") = some 3 := by decide +kernel
  have hfive : declaredLength? (announcing "5" "short") = some 5 := by decide +kernel
  refine ⟨((hserved "32").1.mpr ⟨32, by decide +kernel, by decide⟩).1, ?_, ?_⟩
  · obtain ⟨out, hout⟩ := hmet "3" 3 hthree (by decide)
    refine ⟨out, hout, (((hserved "3").2.2.1 out hout).2.2 fun hallowed => ?_).2⟩
    exact absurd (hallowed.2 3 hthree) (by decide +kernel)
  · obtain ⟨out, hout⟩ := hmet "5" 5 hfive (by decide)
    refine ⟨out, hout, ((hserved "5").2.2.1 out hout).2.1 ⟨by decide +kernel, fun n hn => ?_⟩⟩
    rw [hfive] at hn
    cases hn
    decide +kernel

/-- **Without any time the limit is not asked**: what arrives at a whole
millisecond and announces too much is answered that the time is over. -/
theorem Server.bodyLimit_overdue :
    let v : Server := { germanGate with plan := { germanGate.plan with requestSecs := 0 } }
    0 < v.plan.maxRequestBody
      ∧ ¬ v.plan.TurnsAway (announcing "32" "short")
      ∧ v.plan.Oversized (announcing "32" "short")
      ∧ ((v.serve (world .empty fun _ => 0) (dial answering) (announcing "32" "short")
          opening).1.toOption.map (·.status)) = some .requestTimeout := by
  refine ⟨by decide, ?_, ⟨32, by decide +kernel, by decide⟩, by decide +kernel⟩
  rintro ⟨_, ⟨⟩, hden⟩
  exact absurd hden (by decide +kernel)

end Gatehouse
