import Mathlib
import Gatehouse.Proofs.Cache.Interleaving

/-!
# How far a shared store can be overfilled

An insertion looks at the counter to see whether its entry fits, and adds
the bytes of the entry in a later step. Whoever looks in between sees the
same room and takes it as well. So the capacity, which bounds what a store
holds that is used by one at a time, is not a bound when calls share it:
two insertions are enough to go beyond it (`run_overfull`), and the more of
them race, the more is stored in the end.

What is too much is told by those who were let in together. An insertion is
*entering* from the moment at which it has found room until its entry is in
the map. What is stored and what is entering together (`Crowd.committed`)
only grows when an insertion is let in, and at that moment it has found
room beside what is counted, or nothing at all in the map. So the capacity
is exceeded by the others that are entering at that moment, and by nothing
else: by one body at most for each of them (`bytes_run_le`). While no two
insertions are entering at a time, the capacity is kept. And this is all that
can be said, since any number of insertions can be let in together and put
their entries in afterwards (`exists_run_overfull`).
-/

namespace Gatehouse.Cache

/-! ## Entering -/

/-- Whether a call has found room for an entry that is not in yet. -/
def Call.isEntering : Call → Bool
  | .adding _ | .putting _ => true
  | _ => false

/-- The bytes for which a call has found room and that are not in yet. -/
def Call.entering : Call → Nat
  | .adding job | .putting job => job.entry.body.length
  | _ => 0

/-- Who has nothing in hand is not entering. -/
theorem Call.entering_of_isFree {call : Call} (h : call.isFree = true) : call.entering = 0 := by
  cases call with
  | adding _ | putting _ => cases h
  | _ => rfl

namespace SharedStore

variable {s : SharedStore} {call : Call} {t : SharedStore × Call}

theorem entering_dropped (e : Option Entry) (next : Next) : (dropped e next).entering = 0 := by
  cases e with
  | none => exact Call.entering_of_isFree next.isFree_call
  | some e => rfl

/-- A call does not change its mind about what it inserts. -/
theorem Stepped.job? (h : s.Stepped call t) {job : Insertion} (hjob : t.2.job? = some job) :
    call.job? = some job := by
  cases h with
  | goOn _ _ hkept => exact hkept job hjob
  | takeOut key next => exact (job?_dropped _ next).symm.trans hjob
  | settle bytes next => exact next.job?_call.symm.trans hjob
  | purge job' => exact hjob
  | letIn job' _ hin _ => exact hin.trans hjob
  | count job' => exact hjob
  | put job' =>
    have hnone : none = some job := (job?_dropped _ .finish).symm.trans hjob
    cases hnone

/-- No step moves the limits. -/
theorem Stepped.limits (h : s.Stepped call t) :
    t.1.capacity = s.capacity ∧ t.1.maxItemSize = s.maxItemSize := by
  cases h <;> exact ⟨rfl, rfl⟩

/-- **One step**: what is stored or entering does not grow, unless an
insertion is let in, which has found room or has nothing left to give up. -/
theorem Stepped.committed (h : s.Stepped call t) :
    Store.bytes t.1.items + t.2.entering ≤ Store.bytes s.items + call.entering
      ∨ ∃ job, call.job? = some job ∧ t = (s, .adding job)
        ∧ (s.size + job.entry.body.length ≤ s.capacity ∨ s.items = []) := by
  have hfilter (p : Item → Bool) : Store.bytes (s.items.filter p) ≤ Store.bytes s.items :=
    Store.bytes_le_of_sublist List.filter_sublist
  cases h with
  | goOn hfree hfree' _ =>
    left
    rw [Call.entering_of_isFree hfree, Call.entering_of_isFree hfree']
  | takeOut key next =>
    left
    rw [entering_dropped]
    exact hfilter _
  | settle bytes next =>
    left
    rw [Call.entering_of_isFree next.isFree_call]
    exact le_rfl
  | purge job => exact .inl (hfilter _)
  | letIn job _ hin hroom => exact .inr ⟨job, hin, rfl, hroom⟩
  | count job => exact .inl le_rfl
  | put job =>
    left
    rw [entering_dropped, bytes_put]
    exact Nat.add_le_add_right (hfilter _) _

end SharedStore

/-! ## The crowd -/

namespace Crowd

/-- What is stored or entering. -/
def committed (c : Crowd) : Nat :=
  Store.bytes c.store.items + (c.calls.map Call.entering).sum

/-- **A crowd within limits**: no insertion at work is larger than the store
admits. -/
structure Limited (capacity maxItemSize : Nat) (c : Crowd) : Prop where
  capacity_eq : c.store.capacity = capacity
  maxItemSize_eq : c.store.maxItemSize = maxItemSize
  length_le : ∀ call ∈ c.calls, ∀ job, call.job? = some job →
    job.entry.body.length ≤ min maxItemSize capacity

variable {capacity maxItemSize k : Nat} {c d : Crowd}

/-- An insertion begins only if the store admits its entry. -/
theorem length_le_of_callOf {s : SharedStore} {demand : Demand} {job : Insertion}
    (h : (callOf s demand).job? = some job) :
    job.entry.body.length ≤ min s.maxItemSize s.capacity := by
  cases demand with
  | get key now => cases h
  | remove key => cases h
  | insert job' =>
    change (SharedStore.startInsert s job').job? = some job at h
    unfold SharedStore.startInsert at h
    split at h
    · cases h
    · next hadmitted =>
      obtain rfl : job' = job := Option.some_inj.mp h
      simp only [Bool.or_eq_true, decide_eq_true_eq] at hadmitted
      omega

namespace Limited

theorem empty (capacity maxItemSize : Nat) :
    (Crowd.empty capacity maxItemSize).Limited capacity maxItemSize :=
  ⟨rfl, rfl, nofun⟩

theorem turn (hturn : Turned c d) (h : c.Limited capacity maxItemSize) :
    d.Limited capacity maxItemSize := by
  cases hturn with
  | absent => exact h
  | start s calls demand =>
    refine ⟨h.capacity_eq, h.maxItemSize_eq, fun call hcall job hjob => ?_⟩
    rcases List.mem_append.mp hcall with hold | hnew
    · exact h.length_le call hold job hjob
    · obtain rfl := List.mem_singleton.mp hnew
      rw [← h.capacity_eq, ← h.maxItemSize_eq]
      exact length_le_of_callOf hjob
  | @advance s call t hstep before after =>
    obtain ⟨hcapacity, hmax⟩ := hstep.limits
    refine ⟨hcapacity.trans h.capacity_eq, hmax.trans h.maxItemSize_eq,
      fun call' hcall' job hjob => ?_⟩
    have hothers : call' ∈ before ++ after ∨ call' = t.2 := by
      simp only [List.mem_append, List.mem_cons] at hcall' ⊢
      tauto
    rcases hothers with hother | rfl
    · refine h.length_le call' ?_ job hjob
      simp only [List.mem_append, List.mem_cons] at hother ⊢
      tauto
    · exact h.length_le call (by simp) job (hstep.job? hjob)

theorem run (h : c.Limited capacity maxItemSize) (turns : List Turn) :
    (c.run turns).Limited capacity maxItemSize :=
  run_induction (fun _ _ hturn hc => hc.turn hturn) h turns

end Limited

/-- Those who are entering bring at most one body each. -/
theorem sum_entering_le {limit : Nat} {calls : List Call}
    (h : ∀ call ∈ calls, ∀ job, call.job? = some job → job.entry.body.length ≤ limit) :
    (calls.map Call.entering).sum ≤ calls.countP Call.isEntering * limit := by
  induction calls with
  | nil => exact Nat.zero_le _
  | cons call calls ih =>
    have hrest := ih fun call' hcall' => h call' (List.mem_cons_of_mem _ hcall')
    have hone : call.entering ≤ (if call.isEntering then 1 else 0) * limit := by
      cases call with
      | adding job => exact (h _ List.mem_cons_self job rfl).trans_eq (Nat.one_mul _).symm
      | putting job => exact (h _ List.mem_cons_self job rfl).trans_eq (Nat.one_mul _).symm
      | _ => exact Nat.zero_le _
    rw [List.map_cons, List.sum_cons, List.countP_cons, Nat.add_mul]
    omega

/-- **One turn.** The call that is let in has found room for itself, but not
for the others that are entering. -/
theorem committed_turn (hturn : Turned c d) (hbooks : c.Accounted)
    (hlimits : c.Limited capacity maxItemSize)
    (hfew : d.calls.countP Call.isEntering ≤ k + 1)
    (h : c.committed ≤ capacity + k * min maxItemSize capacity) :
    d.committed ≤ capacity + k * min maxItemSize capacity := by
  cases hturn with
  | absent => exact h
  | start s calls demand =>
    refine le_trans (le_of_eq ?_) h
    simp [committed, Call.entering_of_isFree (isFree_callOf s demand)]
  | @advance s call t hstep before after =>
    simp only [committed, List.map_append, List.map_cons, List.sum_append,
      List.sum_cons] at h ⊢
    obtain hless | ⟨job, hjob, rfl, hroom⟩ := hstep.committed
    · omega
    · -- beside the one that is let in, at most `k` are entering
      have hcount : (before ++ after).countP Call.isEntering ≤ k := by
        simp only [List.countP_append, List.countP_cons] at hfew ⊢
        simp only [Call.isEntering, if_true] at hfew
        omega
      have hothers : ∀ call' ∈ before ++ after, ∀ job', call'.job? = some job' →
          job'.entry.body.length ≤ min maxItemSize capacity := by
        intro call' hcall' job' hjob'
        refine hlimits.length_le call' ?_ job' hjob'
        simp only [List.mem_append, List.mem_cons] at hcall' ⊢
        tauto
      have hbound := (sum_entering_le hothers).trans (Nat.mul_le_mul_right _ hcount)
      rw [List.map_append, List.sum_append] at hbound
      have hfits : Store.bytes s.items + job.entry.body.length ≤ capacity := by
        rcases hroom with hfits | hnil
        · have hstored := hbooks.bytes_le_size
          have hcapacity := hlimits.capacity_eq
          simp only at hstored hcapacity
          omega
        · have hlength := hlimits.length_le call (by simp) job hjob
          rw [hnil]
          show 0 + _ ≤ _
          omega
      show Store.bytes s.items + (_ + (job.entry.body.length + _)) ≤ _
      omega

/-- **No more than so many insertions** are entering at a time in a run. -/
def FewEntering (capacity maxItemSize few : Nat) (turns : List Turn) : Prop :=
  ∀ past, past <+: turns →
    ((empty capacity maxItemSize).run past).calls.countP Call.isEntering ≤ few

/-- **One run.** The bound is kept from turn to turn. -/
theorem FewEntering.bytes_le {turns : List Turn}
    (hfew : FewEntering capacity maxItemSize (k + 1) turns) :
    Store.bytes ((empty capacity maxItemSize).run turns).store.items
      ≤ capacity + k * min maxItemSize capacity := by
  suffices h : ((empty capacity maxItemSize).run turns).committed
      ≤ capacity + k * min maxItemSize capacity from (Nat.le_add_right _ _).trans h
  induction turns using List.reverseRecOn with
  | nil => exact Nat.zero_le _
  | append_singleton turns t ih =>
    have hbefore := ih fun past hpast => hfew past (hpast.trans (List.prefix_append turns [t]))
    have hafter := hfew (turns ++ [t]) List.prefix_rfl
    have hsnoc : (empty capacity maxItemSize).run (turns ++ [t])
        = ((empty capacity maxItemSize).run turns).turn t := List.foldl_concat ..
    rw [hsnoc] at hafter ⊢
    exact committed_turn (turned_turn _ t) ((Accounted.empty _ _).run turns)
      ((Limited.empty _ _).run turns) hafter hbefore

/-! ## Races of any number -/

/-- A turn of the call behind some others. -/
theorem turn_advance_append (s : SharedStore) (before : List Call) (call : Call)
    (after : List Call) (pick : Nat) :
    Crowd.turn ⟨s, before ++ call :: after⟩ (.advance before.length pick)
      = ⟨(s.step pick call).1, before ++ (s.step pick call).2 :: after⟩ := by
  have hcall : (before ++ call :: after)[before.length]? = some call := by simp
  rw [turn_advance_of_some hcall]
  simp

theorem run_append (c : Crowd) (xs ys : List Turn) : c.run (xs ++ ys) = (c.run xs).run ys :=
  List.foldl_append ..

/-- Calls come and stay. -/
theorem length_calls_le_run (c : Crowd) (turns : List Turn) :
    c.calls.length ≤ (c.run turns).calls.length := by
  refine run_induction (P := fun d => c.calls.length ≤ d.calls.length)
    (fun _ _ hturn hc => hc.trans ?_) le_rfl turns
  cases hturn with
  | absent => exact le_rfl
  | start => simp
  | advance => simp

/-- **Any number of insertions can be let in together**, as long as none of
them has added its bytes. -/
theorem exists_run_adding (capacity : Nat) (jobs : List Insertion)
    (hfit : ∀ job ∈ jobs, job.entry.body.length ≤ capacity) :
    ∃ turns, (empty capacity capacity).run turns
      = ⟨(empty capacity capacity).store, jobs.map .adding⟩ := by
  induction jobs using List.reverseRecOn with
  | nil => exact ⟨[], rfl⟩
  | append_singleton jobs job ih =>
    obtain ⟨turns, hturns⟩ := ih fun job' hjob' => hfit job' (by simp [hjob'])
    have hlength : job.entry.body.length ≤ capacity := hfit job (by simp)
    let s := (empty capacity capacity).store
    let before := jobs.map Call.adding
    have hstart : callOf s (.insert job) = .removing job.key (.measure job) :=
      if_neg (by simpa [s, empty, SharedStore.ofStore, Store.empty] using hlength)
    have hremove : s.step 0 (.removing job.key (.measure job)) = (s, .measuring job) := rfl
    have hmeasure : s.step 0 (.measuring job) = (s, .adding job) :=
      if_pos (by simpa [s, empty, SharedStore.ofStore, Store.empty] using hlength)
    refine ⟨turns ++ [.start (.insert job), .advance before.length 0, .advance before.length 0],
      ?_⟩
    rw [run_append, hturns]
    show Crowd.turn (Crowd.turn ⟨s, before ++ [callOf s (.insert job)]⟩
      (.advance before.length 0)) (.advance before.length 0) = _
    rw [hstart, turn_advance_append, hremove, turn_advance_append, hmeasure, List.map_append]
    rfl

/-- **Whoever is let in puts its entry in**, however much is there by then. -/
theorem exists_run_finished (s : SharedStore) (before : List Call) (jobs : List Insertion)
    (hkeys : (jobs.map (·.key)).Nodup)
    (habsent : ∀ job ∈ jobs, ∀ i ∈ s.items, i.1 ≠ job.key) :
    ∃ turns, ∃ t : SharedStore,
      Crowd.run ⟨s, before ++ jobs.map .adding⟩ turns
          = ⟨t, before ++ List.replicate jobs.length .finished⟩
        ∧ Store.bytes t.items
          = Store.bytes s.items + (jobs.map fun job => job.entry.body.length).sum := by
  induction jobs generalizing s before with
  | nil => exact ⟨[], s, rfl, rfl⟩
  | cons job jobs ih =>
    obtain ⟨hjob, hjobs⟩ := List.nodup_cons.mp hkeys
    let added : SharedStore := { s with size := s.size + job.entry.body.length }
    let put : SharedStore := { added with items := s.items ++ [(job.key, job.entry)] }
    have hnone : added.find? job.key = none :=
      SharedStore.find?_eq_none_iff.mpr (habsent job List.mem_cons_self)
    have hothers : added.without job.key = s.items :=
      List.filter_eq_self.mpr fun i hi => decide_eq_true (habsent job List.mem_cons_self i hi)
    have hput : added.step 0 (.putting job) = (put, .finished) := by
      show (({ added with items := added.without job.key ++ [(job.key, job.entry)] } : SharedStore),
        SharedStore.dropped (added.find? job.key) .finish) = _
      rw [hnone, hothers]
      rfl
    have hlater : ∀ job' ∈ jobs, ∀ i ∈ put.items, i.1 ≠ job'.key := by
      intro job' hjob' i hi
      rcases List.mem_append.mp hi with hold | hnew
      · exact habsent job' (List.mem_cons_of_mem _ hjob') i hold
      · obtain rfl := List.mem_singleton.mp hnew
        exact fun hsame => hjob (List.mem_map.mpr ⟨job', hjob', hsame.symm⟩)
    obtain ⟨turns, t, hrun, hbytes⟩ := ih put (before ++ [.finished]) hjobs hlater
    refine ⟨.advance before.length 0 :: .advance before.length 0 :: turns, t, ?_, ?_⟩
    · show Crowd.run (Crowd.turn (Crowd.turn ⟨s, before ++ .adding job :: jobs.map .adding⟩ _) _)
        turns = _
      rw [turn_advance_append]
      show Crowd.run (Crowd.turn ⟨added, before ++ .putting job :: jobs.map .adding⟩ _) turns = _
      rw [turn_advance_append, hput]
      simpa [List.replicate_succ] using hrun
    · have hstored : Store.bytes put.items = Store.bytes s.items + job.entry.body.length :=
        Store.bytes_append _ _
      rw [hbytes, hstored, List.map_cons, List.sum_cons, Nat.add_assoc]

/-- **No multiple of the capacity is a bound**: for every number of bodies as
large as the capacity there are so many insertions that leave all of them in the
store. -/
theorem exists_run_overfull (capacity n : Nat) :
    ∃ turns, FewEntering capacity capacity n turns
      ∧ ((empty capacity capacity).run turns).isQuiet = true
      ∧ Store.bytes ((empty capacity capacity).run turns).store.items = n * capacity := by
  let jobs := (List.range n).map fun i =>
    Insertion.ofLength (String.ofList (List.replicate i 'a')) capacity 60
  have hlength : ∀ job ∈ jobs, job.entry.body.length = capacity := by
    intro job hjob
    obtain ⟨i, -, rfl⟩ := List.mem_map.mp hjob
    exact List.length_replicate
  have hkeys : (jobs.map (·.key)).Nodup := by
    rw [List.map_map]
    refine List.Nodup.map (fun i j hij => ?_) List.nodup_range
    have hlists := String.ofList_injective hij
    simpa using congrArg List.length hlists
  obtain ⟨xs, hxs⟩ := exists_run_adding capacity jobs fun job hjob => (hlength job hjob).le
  obtain ⟨ys, t, hys, hbytes⟩ :=
    exists_run_finished (empty capacity capacity).store [] jobs hkeys fun _ _ => nofun
  have hrun : (empty capacity capacity).run (xs ++ ys)
      = ⟨t, List.replicate jobs.length .finished⟩ := by
    rw [run_append, hxs]
    exact hys
  refine ⟨xs ++ ys, fun past hpast => ?_, ?_, ?_⟩
  · -- there are never more calls than in the end
    obtain ⟨rest, hrest⟩ := hpast
    have hcalls := length_calls_le_run ((empty capacity capacity).run past) rest
    rw [← run_append, hrest, hrun, List.length_replicate] at hcalls
    exact List.countP_le_length.trans (hcalls.trans_eq (by simp [jobs]))
  · rw [hrun]
    simp [isQuiet]
  · rw [hrun]
    show Store.bytes t.items = _
    rw [hbytes, List.map_congr_left hlength]
    show 0 + _ = _
    simp [jobs, Function.comp_def]

/-! ## The bound -/

/-- **How far the capacity is exceeded.** If no more than `k` others are
entering when an insertion is, then what is stored is above the capacity by
no more than `k` bodies of the largest size that is admitted, whatever calls
are at work and however they take turns. With `k = 0` that is the capacity
itself. A store that admits bodies as large as its capacity can be so full when
all calls have come to their end. -/
theorem bytes_run_le (capacity maxItemSize k : Nat) :
    (∀ turns, FewEntering capacity maxItemSize (k + 1) turns →
      Store.bytes ((empty capacity maxItemSize).run turns).store.items
        ≤ capacity + k * min maxItemSize capacity)
    ∧ ∃ turns, FewEntering capacity capacity (k + 1) turns
      ∧ ((empty capacity capacity).run turns).isQuiet = true
      ∧ Store.bytes ((empty capacity capacity).run turns).store.items
        = capacity + k * capacity := by
  refine ⟨fun _ hfew => hfew.bytes_le, ?_⟩
  obtain ⟨turns, hfew, hquiet, hbytes⟩ := exists_run_overfull capacity (k + 1)
  exact ⟨turns, hfew, hquiet, by rw [hbytes, Nat.add_one_mul, Nat.add_comm]⟩

/-- Two insertions that have both found room for ten bytes: the bound is met
by what they leave. -/
theorem bytes_run_le_two :
    let race : List Turn :=
      [.start (.insert (.ofLength "a" 10 60)), .start (.insert (.ofLength "b" 10 60)),
        .advance 0 0, .advance 1 0, .advance 0 0, .advance 1 0, .advance 0 0, .advance 1 0,
        .advance 0 0, .advance 1 0]
    FewEntering 10 10 (1 + 1) race
      ∧ Store.bytes ((empty 10 10).run race).store.items ≤ 10 + 1 * min 10 10
      ∧ Store.bytes ((empty 10 10).run race).store.items = 20 := by
  intro race
  have hfew : FewEntering 10 10 (1 + 1) race := by
    have hinits : ∀ past ∈ race.inits,
        ((empty 10 10).run past).calls.countP Call.isEntering ≤ 1 + 1 := by decide +kernel
    exact fun past hpast => hinits past ((List.mem_inits past race).mpr hpast)
  exact ⟨hfew, (bytes_run_le 10 10 1).1 race hfew, by decide +kernel⟩

/-- **The capacity is not a bound**: two insertions of six bytes each, on a
store of ten. Each has found room before the other has added its bytes, and
when both are finished twelve bytes are stored. -/
theorem run_overfull :
    let c := (empty 10 10).run
      [.start (.insert (.ofLength "a" 6 60)), .start (.insert (.ofLength "b" 6 60)),
        .advance 0 0, .advance 1 0, .advance 0 0, .advance 1 0,
        .advance 0 0, .advance 0 0, .advance 1 0, .advance 1 0]
    c.isQuiet = true ∧ c.store.capacity = 10 ∧ Store.bytes c.store.items = 12 := by
  decide +kernel

end Crowd

end Gatehouse.Cache
