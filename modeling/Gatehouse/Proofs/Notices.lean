import Mathlib
import Gatehouse.Shutdown

/-!
# No shutdown notice is lost

Handles and receivers of a shutdown channel come and go in any order, the
channel keeps no more than the newest notice, and what a receiver finds is
computed from two positions: that of the channel and its own. Seen from
outside, none of this is there. Each receiver has a counter of its own, of
the notices that it has still to hear about. The counter starts at nothing,
grows with each trigger by whatever handle, and shrinks only by what the
receiver itself is told (`counted`). Nothing that other receivers do has any
part in it.

The link between the two is that the position of a live receiver is behind
that of the channel by exactly its counter (`Follows`). Every act preserves
it, and a trigger does so only because a live receiver is there: without
any, the channel does not move.
-/

namespace Gatehouse

/-- The notices that a receiver learns of: the one it is handed, or those it
is told that it missed. -/
def Notice.told : Notice → Nat
  | .received => 1
  | .lagged missed => missed
  | .empty | .closed => 0

namespace Shutdown

/-! ## Histories -/

/-- What is done with a channel, through a handle or by a receiver. -/
inductive Act where
  | subscribe (h : Nat)
  | clone (h : Nat)
  | trigger (h : Nat)
  | dropHandle (h : Nat)
  | drop (i : Nat)
  | recv (i : Nat)
deriving DecidableEq

/-- What kinds of acts there are. -/
inductive Kind where
  | subscribe | clone | trigger | dropHandle | drop | recv
deriving DecidableEq

@[simp] def Act.kind : Act → Kind
  | .subscribe _ => .subscribe
  | .clone _ => .clone
  | .trigger _ => .trigger
  | .dropHandle _ => .dropHandle
  | .drop _ => .drop
  | .recv _ => .recv

/-- How often acts of a kind occur. -/
def times (k : Kind) (acts : List Act) : Nat := acts.countP fun a => a.kind = k

theorem times_cons (k : Kind) (a : Act) (acts : List Act) :
    times k (a :: acts) = times k acts + if a.kind = k then 1 else 0 := by
  simp only [times, List.countP_cons, decide_eq_true_eq]

/-- What an act makes of the channel. -/
def after (s : Shutdown) : Act → Shutdown
  | .subscribe _ => s.subscribe.2
  | .clone _ => s.clone.2
  | .trigger _ => s.trigger.2
  | .dropHandle h => s.dropHandle h
  | .drop i => s.drop i
  | .recv i => (s.recv i).2

/-- Whether an act can be done: the handle or the receiver is there. -/
def Permits (s : Shutdown) : Act → Prop
  | .subscribe h | .clone h | .trigger h | .dropHandle h => s.handles[h]? = some true
  | .drop i | .recv i => s.receivers[i]?.join ≠ none

instance decidablePermits (s : Shutdown) : (a : Act) → Decidable (s.Permits a)
  | .subscribe h | .clone h | .trigger h | .dropHandle h =>
    inferInstanceAs (Decidable (s.handles[h]? = some true))
  | .drop i | .recv i => inferInstanceAs (Decidable (s.receivers[i]?.join ≠ none))

/-- Acts one after the other. -/
def run (s : Shutdown) (acts : List Act) : Shutdown := acts.foldl after s

theorem run_append (s : Shutdown) (xs ys : List Act) : s.run (xs ++ ys) = (s.run xs).run ys :=
  List.foldl_append ..

/-- **A history**: acts each of which can be done when it is its turn. -/
def Permitted : Shutdown → List Act → Prop
  | _, [] => True
  | s, a :: acts => s.Permits a ∧ (s.after a).Permitted acts

instance decidablePermitted : (s : Shutdown) → (acts : List Act) → Decidable (s.Permitted acts)
  | _, [] => inferInstanceAs (Decidable True)
  | s, a :: acts =>
    have := decidablePermitted (s.after a) acts
    inferInstanceAs (Decidable (_ ∧ _))

variable {s : Shutdown} {i u : Nat} {a : Act} {acts : List Act}

/-! ## The counter of a receiver -/

/-- What an act makes of the notices that a receiver has still to hear
about. -/
def counted (i u : Nat) : Act → Nat
  | .trigger _ => u + 1
  | .recv j => if j = i then (if 2 ≤ u then 1 else 0) else u
  | _ => u

/-- **The counter of a receiver** after what has been done since it came. -/
def counter (i : Nat) (acts : List Act) : Nat := acts.foldl (counted i) 0

/-- What a receiver is told by its counter. -/
def report (u : Nat) (isOpen : Bool) : Notice :=
  match u with
  | 0 => if isOpen then .empty else .closed
  | 1 => .received
  | n + 2 => .lagged (n + 1)

/-- A receiver that is told of nothing has heard everything. -/
theorem eq_zero_of_report {isOpen : Bool}
    (h : report u isOpen = .empty ∨ report u isOpen = .closed) : u = 0 := by
  match u with
  | 0 => rfl
  | 1 => exact absurd h (by simp [report])
  | n + 2 => exact absurd h (by simp [report])

theorem recv_fst (s : Shutdown) (i : Nat) : (s.recv i).1 = report (s.pending i) s.isOpen := by
  unfold recv
  match s.pending i with
  | 0 | 1 | _ + 2 => rfl

/-- A receiver that has heard something has a new position, and nothing else
changes. -/
theorem recv_snd (s : Shutdown) (i : Nat) :
    (s.recv i).2 = match s.pending i with
      | 0 => s
      | 1 => { s with receivers := s.receivers.set i (some s.sent) }
      | _ + 2 => { s with receivers := s.receivers.set i (some (s.sent - 1)) } := by
  unfold recv
  match s.pending i with
  | 0 | 1 | _ + 2 => rfl

/-! ## Positions -/

/-- **A live receiver and its counter**: its position is behind that of the
channel by as much. -/
def Follows (s : Shutdown) (i u : Nat) : Prop :=
  ∃ seen, s.receivers[i]? = some (some seen) ∧ s.sent = seen + u

/-- A new receiver has nothing to hear about. -/
theorem follows_subscribe (s : Shutdown) : s.subscribe.2.Follows s.subscribe.1 0 :=
  ⟨s.sent, List.getElem?_concat_length, rfl⟩

namespace Follows

theorem pending_eq (h : s.Follows i u) : s.pending i = u := by
  obtain ⟨seen, hseen, hsent⟩ := h
  unfold pending
  rw [hseen]
  show s.sent - seen = u
  omega

theorem recv_eq (h : s.Follows i u) : (s.recv i).1 = report u s.isOpen := by
  rw [recv_fst, h.pending_eq]

theorem listeners_ne_zero (h : s.Follows i u) : s.listeners ≠ 0 := by
  obtain ⟨seen, hseen, -⟩ := h
  unfold listeners
  rw [Ne, List.length_eq_zero_iff, List.filter_eq_nil_iff]
  exact fun hnone => hnone _ (List.mem_of_getElem? hseen) rfl

/-- A receiver keeps its position while others take theirs. -/
theorem of_set (h : s.Follows i u) {j : Nat} (hj : j ≠ i) (position : Option Nat) :
    Follows { s with receivers := s.receivers.set j position } i u := by
  obtain ⟨seen, hseen, hsent⟩ := h
  exact ⟨seen, (List.getElem?_set_ne hj).trans hseen, hsent⟩

/-- A receiver that is there can take a new position. -/
theorem set_self (h : s.Follows i u) {position v : Nat} (hv : s.sent = position + v) :
    Follows { s with receivers := s.receivers.set i (some position) } i v := by
  obtain ⟨seen, hseen, -⟩ := h
  obtain ⟨hi, -⟩ := List.getElem?_eq_some_iff.mp hseen
  exact ⟨position, List.getElem?_set_self hi, hv⟩

/-- What a receiver hears moves it up to its counter. -/
theorem recv_self (h : s.Follows i u) : (s.recv i).2.Follows i (if 2 ≤ u then 1 else 0) := by
  obtain ⟨seen, hseen, hsent⟩ := id h
  rw [recv_snd, h.pending_eq]
  match u with
  | 0 => exact h
  | 1 => exact h.set_self (Nat.add_zero _).symm
  | n + 2 =>
    rw [if_pos (by omega)]
    exact h.set_self (by omega)

theorem recv_other (h : s.Follows i u) {j : Nat} (hj : j ≠ i) : (s.recv j).2.Follows i u := by
  rw [recv_snd]
  match s.pending j with
  | 0 => exact h
  | 1 => exact h.of_set hj _
  | _ + 2 => exact h.of_set hj _

/-- **One act.** As long as a receiver is not given up, it follows its
counter. -/
theorem after (h : s.Follows i u) (ha : a ≠ .drop i) :
    (s.after a).Follows i (counted i u a) := by
  cases a with
  | subscribe g =>
    obtain ⟨seen, hseen, hsent⟩ := h
    obtain ⟨hi, -⟩ := List.getElem?_eq_some_iff.mp hseen
    exact ⟨seen, (List.getElem?_append_left hi).trans hseen, hsent⟩
  | clone g => exact h
  | trigger g =>
    have hsend : s.trigger.2 = { s with sent := s.sent + 1 } := if_neg h.listeners_ne_zero
    obtain ⟨seen, hseen, hsent⟩ := h
    show s.trigger.2.Follows i (u + 1)
    rw [hsend]
    refine ⟨seen, hseen, ?_⟩
    show s.sent + 1 = seen + (u + 1)
    rw [hsent, Nat.add_assoc]
  | dropHandle g => exact h
  | drop j => exact h.of_set (fun hj => ha (congrArg Act.drop hj)) none
  | recv j =>
    show (s.recv j).2.Follows i (if j = i then _ else u)
    by_cases hj : j = i
    · rw [if_pos hj, hj]
      exact h.recv_self
    · rw [if_neg hj]
      exact h.recv_other hj

theorem run (h : s.Follows i u) (hacts : .drop i ∉ acts) :
    (s.run acts).Follows i (acts.foldl (counted i) u) := by
  induction acts generalizing s u with
  | nil => exact h
  | cons a acts ih =>
    obtain ⟨ha, hrest⟩ := List.ne_and_not_mem_of_not_mem_cons hacts
    exact ih (h.after ha.symm) hrest

end Follows

/-! ## What a receiver hears -/

/-- A receiver is told of what its counter loses. -/
theorem told_report (u : Nat) (isOpen : Bool) :
    (report u isOpen).told + (if 2 ≤ u then 1 else 0) = u := by
  match u with
  | 0 => cases isOpen <;> rfl
  | 1 => rfl
  | n + 2 => exact congrArg (n + 1 + ·) (if_pos (by omega))

/-- What a receiver learns of in the course of some acts. -/
def heard (i : Nat) : Shutdown → List Act → Nat
  | _, [] => 0
  | s, a :: acts =>
    (if a = .recv i then (s.recv i).1.told else 0) + heard i (s.after a) acts

/-- What a receiver learns of by one act leaves its counter, and a trigger
enters it. -/
theorem Follows.told_add (h : s.Follows i u) (a : Act) :
    (if a = .recv i then (s.recv i).1.told else 0) + counted i u a
      = u + if a.kind = .trigger then 1 else 0 := by
  cases a with
  | recv j =>
    by_cases hj : j = i
    · rw [hj, if_pos rfl, h.recv_eq]
      simpa [counted] using told_report u s.isOpen
    · simp [counted, hj]
  | trigger g => simp [counted]
  | _ => simp [counted]

/-- **Each notice is heard of once.** What a receiver has learned of and what
it has still to hear about are what it had to hear about and what has been
announced since. -/
theorem Follows.heard_add (h : s.Follows i u) (hacts : .drop i ∉ acts) :
    heard i s acts + acts.foldl (counted i) u = u + times .trigger acts := by
  induction acts generalizing s u with
  | nil => exact Nat.zero_add u
  | cons a acts ih =>
    obtain ⟨ha, hrest⟩ := List.ne_and_not_mem_of_not_mem_cons hacts
    have hlater := ih (h.after ha.symm) hrest
    have hnow := h.told_add a
    simp only [heard, List.foldl_cons, times_cons]
    omega

/-- **What is announced is received** before a receiver has heard
everything. -/
theorem Follows.exists_received (h : s.Follows i u) (hacts : .drop i ∉ acts) (hu : u ≠ 0)
    (hdone : acts.foldl (counted i) u = 0) :
    ∃ xs ys, acts = xs ++ .recv i :: ys ∧ ((s.run xs).recv i).1 = .received := by
  induction acts generalizing s u with
  | nil => exact absurd hdone hu
  | cons a acts ih =>
    obtain ⟨ha, hrest⟩ := List.ne_and_not_mem_of_not_mem_cons hacts
    by_cases hnow : counted i u a = 0
    · -- only a receiver with one notice before it comes to nothing
      have hrecv : a = .recv i ∧ u = 1 := by
        cases a with
        | recv j =>
          by_cases hj : j = i
          · simp only [counted, hj, if_true] at hnow
            refine ⟨congrArg Act.recv hj, ?_⟩
            split at hnow <;> omega
          · simp only [counted, hj, if_false] at hnow
            exact absurd hnow hu
        | trigger g => exact absurd hnow (Nat.succ_ne_zero u)
        | _ => exact absurd hnow hu
      obtain ⟨rfl, rfl⟩ := hrecv
      exact ⟨[], acts, rfl, h.recv_eq⟩
    · obtain ⟨xs, ys, rfl, hreceived⟩ := ih (h.after ha.symm) hrest hnow hdone
      exact ⟨a :: xs, ys, rfl, hreceived⟩

/-- The same of a trigger among other acts: the notice is received after it. -/
theorem Follows.exists_received_after (h : s.Follows i u) {early late : List Act} {g : Nat}
    (hacts : .drop i ∉ early ++ .trigger g :: late)
    (hdone : (early ++ .trigger g :: late).foldl (counted i) u = 0) :
    ∃ xs ys, late = xs ++ .recv i :: ys
      ∧ ((s.run (early ++ .trigger g :: xs)).recv i).1 = .received := by
  obtain ⟨hearly, hlate⟩ : .drop i ∉ early ∧ .drop i ∉ late := by
    rw [List.mem_append, List.mem_cons] at hacts
    tauto
  -- the counter is above zero when the trigger has been
  have htriggered := (h.run hearly).after (a := .trigger g) nofun
  rw [List.foldl_append] at hdone
  obtain ⟨xs, ys, hsplit, hreceived⟩ :=
    htriggered.exists_received hlate (Nat.succ_ne_zero _) hdone
  refine ⟨xs, ys, hsplit, ?_⟩
  rw [run_append]
  exact hreceived

/-! ## Who is there -/

/-- The handles that are left. -/
def holders (s : Shutdown) : Nat := s.handles.countP id

theorem isOpen_iff : s.isOpen = true ↔ 0 < s.holders := by
  simp [isOpen, holders, List.countP_pos_iff]

theorem listeners_eq (s : Shutdown) : s.listeners = s.receivers.countP Option.isSome :=
  List.countP_eq_length_filter.symm

/-- One that counts is replaced: the count is as before, or one less. -/
theorem countP_set_add_one {α : Type} {p : α → Bool} {l : List α} {i : Nat} {x : α}
    (hx : l[i]? = some x) (hp : p x = true) (y : α) :
    (l.set i y).countP p + 1 = l.countP p + if p y then 1 else 0 := by
  obtain ⟨hi, rfl⟩ := List.getElem?_eq_some_iff.mp hx
  have hpos : 0 < l.countP p := List.countP_pos_iff.mpr ⟨l[i], List.getElem_mem hi, hp⟩
  rw [List.countP_set hi, if_pos hp]
  omega

/-- A receiver that is there can move or go. -/
theorem listeners_set (hi : s.receivers[i]?.join ≠ none) (position : Option Nat) :
    listeners { s with receivers := s.receivers.set i position } + 1
      = s.listeners + if position.isSome then 1 else 0 := by
  obtain ⟨seen, hseen⟩ := Option.ne_none_iff_exists'.mp hi
  rw [listeners_eq, listeners_eq]
  exact countP_set_add_one (Option.join_eq_some_iff.mp hseen) rfl position

/-- **Receivers come by subscribing and go by being given up.** -/
theorem listeners_after (h : s.Permits a) :
    (s.after a).listeners + (if a.kind = .drop then 1 else 0)
      = s.listeners + if a.kind = .subscribe then 1 else 0 := by
  cases a with
  | subscribe g =>
    show listeners s.subscribe.2 + 0 = s.listeners + 1
    simp [listeners, subscribe]
  | clone g => rfl
  | trigger g =>
    show listeners s.trigger.2 + 0 = s.listeners + 0
    unfold trigger
    dsimp only
    split <;> rfl
  | dropHandle g => rfl
  | drop j => exact listeners_set h none
  | recv j =>
    refine congrArg (· + 0) ?_
    show listeners (s.recv j).2 = s.listeners
    rw [recv_snd]
    match s.pending j with
    | 0 => rfl
    | 1 => exact Nat.succ.inj (listeners_set h (some s.sent))
    | _ + 2 => exact Nat.succ.inj (listeners_set h (some (s.sent - 1)))

/-- **Handles come by cloning and go by being given up.** -/
theorem holders_after (h : s.Permits a) :
    (s.after a).holders + (if a.kind = .dropHandle then 1 else 0)
      = s.holders + if a.kind = .clone then 1 else 0 := by
  cases a with
  | subscribe g => rfl
  | clone g =>
    show holders s.clone.2 + 0 = s.holders + 1
    simp [holders, clone]
  | trigger g =>
    show holders s.trigger.2 + 0 = s.holders + 0
    unfold trigger
    dsimp only
    split <;> rfl
  | dropHandle g => exact countP_set_add_one h rfl false
  | drop j => rfl
  | recv j =>
    refine congrArg (· + 0) ?_
    show holders (s.recv j).2 = s.holders
    rw [recv_snd]
    match s.pending j with
    | 0 | 1 | _ + 2 => rfl

/-- What one act adds or takes away, a history does as often as the act
occurs. -/
theorem Permitted.count_run {n : Shutdown → Nat} {less more : Kind}
    (hstep : ∀ {s : Shutdown} {a : Act}, s.Permits a →
      n (s.after a) + (if a.kind = less then 1 else 0) = n s + if a.kind = more then 1 else 0)
    (h : s.Permitted acts) :
    n (s.run acts) + times less acts = n s + times more acts := by
  induction acts generalizing s with
  | nil => rfl
  | cons a acts ih =>
    have hnow := hstep h.1
    have hlater : n (s.run (a :: acts)) + times less acts = n (s.after a) + times more acts :=
      ih h.2
    rw [times_cons, times_cons]
    omega

/-! ## Every notice -/

/-- **No notice is lost**, in any history of a channel.

A trigger reaches as many as have subscribed and have not been given up. As
for a receiver that is not given up: what it is told is told by its own
counter, which starts when it subscribes; the channel is closed to it when as
many handles have been given up as there have been. What it has learned of
and what is left of its counter are the triggers since it subscribed, each of
them once, and none from before. And after a trigger it does not find the
channel empty or closed unless it has received a notice in between. -/
theorem run_hears (past : List Act) (hpast : new.Permitted past) :
    let s := new.run past
    s.trigger.1 + times .drop past = times .subscribe past
      ∧ (s.isOpen = true ↔
        times .dropHandle past < 1 + times .clone past)
      ∧ ∀ (before : List Act) (h : Nat) (rest : List Act), past = before ++ .subscribe h :: rest →
        let i := (new.run before).subscribe.1
        .drop i ∉ rest →
          (s.recv i).1 = report (counter i rest) s.isOpen
            ∧ heard i ((new.run before).after (.subscribe h)) rest + counter i rest
              = times .trigger rest
            ∧ ∀ (early : List Act) (g : Nat) (late : List Act), rest = early ++ .trigger g :: late →
              (s.recv i).1 = .empty ∨ (s.recv i).1 = .closed →
                ∃ xs ys, late = xs ++ .recv i :: ys
                  ∧ ((new.run (before ++ .subscribe h :: (early ++ .trigger g :: xs))).recv i).1
                    = .received := by
  intro s
  have hlisteners := hpast.count_run listeners_after
  have hholders := hpast.count_run holders_after
  refine ⟨?_, ?_, ?_⟩
  · exact hlisteners.trans (Nat.zero_add _)
  · rw [isOpen_iff]
    have hfirst : holders new = 1 := rfl
    show 0 < holders (new.run past) ↔ _
    omega
  · intro before h rest hsplit i hkept
    have hnew : ((new.run before).after (.subscribe h)).Follows i 0 := follows_subscribe _
    have hs : s = ((new.run before).after (.subscribe h)).run rest := by
      show new.run past = _
      rw [hsplit, run_append]
      rfl
    have hnow : s.Follows i (counter i rest) := hs ▸ hnew.run hkept
    have hheard := hnew.heard_add hkept
    refine ⟨hnow.recv_eq, hheard.trans (Nat.zero_add _), ?_⟩
    intro early g late hrest hnothing
    rw [hnow.recv_eq] at hnothing
    have hcounter := eq_zero_of_report hnothing
    rw [hrest] at hkept
    rw [hrest, counter] at hcounter
    obtain ⟨xs, ys, hlate, hreceived⟩ := hnew.exists_received_after hkept hcounter
    refine ⟨xs, ys, hlate, ?_⟩
    rw [run_append]
    exact hreceived

/-- A receiver hears of two triggers by different handles, the second of which
displaces the notice of the first, after all handles are given up. A second
receiver, which came in between, hears of the second only. -/
theorem run_hears_both :
    let rest : List Act :=
      [.clone 0, .trigger 1, .subscribe 1, .trigger 0, .dropHandle 0, .dropHandle 1,
        .recv 0, .recv 0, .recv 1]
    let s := new.run (.subscribe 0 :: rest)
    new.Permitted (.subscribe 0 :: rest) ∧ s.trigger.1 = 2 ∧ (s.recv 0).1 = .closed
      ∧ heard 0 (new.after (.subscribe 0)) rest = 2 := by
  intro rest s
  have hpast : new.Permitted (.subscribe 0 :: rest) := by decide +kernel
  obtain ⟨htrigger, hopen, hreceivers⟩ := run_hears (.subscribe 0 :: rest) hpast
  obtain ⟨hrecv, hheard, -⟩ := hreceivers [] 0 rest rfl (by decide +kernel)
  refine ⟨hpast, htrigger, ?_, ?_⟩
  · exact hrecv.trans (by decide +kernel)
  · exact hheard

end Shutdown

end Gatehouse
