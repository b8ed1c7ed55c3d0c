import Gatehouse.Proofs.Cache.Accounting

/-!
# A call that has the store to itself

What `Store` does in one go, a call on a shared store does in steps, and
between two of them counter and entries disagree: an entry has left and its
bytes are still counted, or the bytes of a new one are counted before it is
there. Here a call works alone, from beginning to end. It comes to what
`Store` says, and on the way the counter is never below zero
(`works_callOf`).

The counter of a shared store is an integer and that of a `Store` is a
natural number, whose subtraction stops at zero. That the two come to the
same says that it never had to stop.
-/

namespace Gatehouse.Cache

namespace SharedStore

/-- **A call at work on its own**: from a store and a call, one step after
the other, to a store and what is left of the call. The counter is not
below zero at any point. -/
inductive Works (choose : Chooser) :
    SharedStore × Call → SharedStore × Call → Prop
  | refl {x : SharedStore × Call} (hsize : 0 ≤ x.1.size) : Works choose x x
  | next {x y : SharedStore × Call} (hsize : 0 ≤ x.1.size)
      (hrest : Works choose (x.1.step (choose x.1.items) x.2) y) : Works choose x y

variable {choose : Chooser} {s : Store} {x y z : SharedStore × Call}

namespace Works

theorem trans (hxy : Works choose x y) (hyz : Works choose y z) : Works choose x z := by
  induction hxy with
  | refl => exact hyz
  | next hsize _ ih => exact .next hsize (ih hyz)

/-- A step from the contents of a store, whose counter is a number. -/
theorem ofStore {call : Call} {y : SharedStore × Call}
    (hstep : Works choose ((ofStore s).step (choose s.items) call) y) :
    Works choose (SharedStore.ofStore s, call) y :=
  .next (Int.natCast_nonneg _) hstep

theorem done (s : Store) (call : Call) :
    Works choose (SharedStore.ofStore s, call) (SharedStore.ofStore s, call) :=
  .refl (Int.natCast_nonneg _)

end Works

/-- **A removal** takes two steps where there is an entry: the entry leaves,
then its bytes are subtracted. -/
theorem works_removing (h : s.InOrder) (key : String) (next : Next) :
    Works choose (ofStore s, .removing key next) (ofStore (s.remove key), next.call) := by
  refine .ofStore ?_
  show Works choose
    ({ ofStore s with items := s.items.filter (·.1 ≠ key) }, dropped (s.find? key) next) _
  cases hfind : s.find? key with
  | none =>
    have hkept := Store.items_remove s key
    rw [Store.remove_of_eq_none hfind] at hkept ⊢
    rw [← hkept]
    exact .done s next.call
  | some e =>
    have hcount : ((s.size - e.body.length : Nat) : Int)
        = (s.size : Int) - e.body.length := Int.ofNat_sub (h.length_le_size hfind)
    have hremove : ofStore (s.remove key)
        = ⟨s.capacity, s.maxItemSize, (s.size : Int) - e.body.length,
          s.items.filter (·.1 ≠ key)⟩ := by
      rw [Store.remove_of_eq_some hfind, ← hcount]
      rfl
    refine .next (Int.natCast_nonneg _) ?_
    rw [hremove]
    refine .refl ?_
    show 0 ≤ (s.size : Int) - e.body.length
    rw [← hcount]
    exact Int.natCast_nonneg _

/-- **A lookup** takes one step, and those of a removal where it has met a
stale entry. -/
theorem works_looking (h : s.InOrder) (key : String) (now : Instant) :
    Works choose (ofStore s, .looking key now)
      (ofStore (s.get now key).2, .finished) := by
  have hfind : (ofStore s).find? key = s.find? key := rfl
  refine .ofStore ?_
  unfold Store.get
  simp only [step, hfind]
  cases s.find? key with
  | none => exact .done s _
  | some e =>
    by_cases hfresh : e.isFresh now = true
    · simp only [if_pos hfresh]
      exact .done s _
    · simp only [if_neg hfresh]
      exact works_removing h key .finish

/-- Whether something fits is the same question for both counters. -/
theorem fits_ofStore_iff {needed : Nat} :
    (ofStore s).size + needed ≤ ((ofStore s).capacity : Int)
      ↔ s.size + needed ≤ s.capacity := by
  show (s.size : Int) + needed ≤ s.capacity ↔ _
  omega

variable (job : Insertion)

/-- **Eviction** is a round of steps for each entry that is given up. -/
theorem works_remeasuring (h : s.InOrder) :
    Works choose (ofStore s, .remeasuring job)
      (ofStore (s.evict choose job.entry.body.length), .adding job) := by
  induction s using Store.evict.induct choose job.entry.body.length with
  | case1 s hfits =>
    rw [Store.evict_eq, if_pos hfits]
    refine .ofStore ?_
    simp only [step]
    rw [if_pos (fits_ofStore_iff.mpr hfits)]
    exact .done s _
  | case2 s hfits hvictim =>
    rw [Store.evict_eq, if_neg hfits, hvictim]
    refine .ofStore ?_
    simp only [step]
    rw [if_neg (mt fits_ofStore_iff.mp hfits)]
    refine .ofStore ?_
    have hnone : Store.victim? (fun _ => choose s.items) (ofStore s).items = none := hvictim
    simp only [step, hnone]
    exact .done s _
  | case3 s hfits i hvictim hlt ih =>
    rw [Store.evict_eq, if_neg hfits, hvictim]
    refine .ofStore ?_
    simp only [step]
    rw [if_neg (mt fits_ofStore_iff.mp hfits)]
    refine .ofStore ?_
    have hsome : Store.victim? (fun _ => choose s.items) (ofStore s).items = some i := hvictim
    simp only [step, hsome]
    exact (works_removing h i.1 (.remeasure job)).trans (ih (h.remove i.1))

/-- **Making room**: nothing is done where the entry fits. Otherwise the
stale entries go in one step, which is not below zero at its end, and so it
is not on the way there either. -/
theorem works_measuring (h : s.InOrder) :
    Works choose (ofStore s, .measuring job)
      (ofStore (s.makeRoom choose job.now job.entry.body.length), .adding job) := by
  unfold Store.makeRoom
  refine .ofStore ?_
  simp only [step]
  by_cases hfits : s.size + job.entry.body.length ≤ s.capacity
  · rw [if_pos hfits, if_pos (fits_ofStore_iff.mpr hfits)]
    exact .done s _
  · rw [if_neg hfits, if_neg (mt fits_ofStore_iff.mp hfits)]
    have hcount := Int.ofNat_sub (h.stale_le_size job.now)
    have hpurge : ofStore (s.purge job.now)
        = ⟨s.capacity, s.maxItemSize,
          (s.size : Int) - Store.bytes (s.items.filter fun i => !i.2.isFresh job.now),
          s.items.filter fun i => i.2.isFresh job.now⟩ := by
      unfold Store.purge ofStore
      rw [← hcount]
    refine .ofStore ?_
    have hstep : (ofStore s).step (choose s.items) (.purging job)
        = (ofStore (s.purge job.now), .remeasuring job) := by
      rw [hpurge]
      rfl
    rw [hstep]
    exact works_remeasuring job (h.purge job.now)

/-- **The new entry** is counted first and put there then. Alone, the call
finds nothing to displace. -/
theorem works_adding (habsent : s.find? job.key = none) :
    Works choose (ofStore s, .adding job)
      (ofStore { s with
        size := s.size + job.entry.body.length
        items := s.items ++ [(job.key, job.entry)] }, .finished) := by
  have hcounted : (0 : Int) ≤ (s.size : Int) + job.entry.body.length := by omega
  have hothers : s.items.filter (·.1 ≠ job.key) = s.items :=
    List.filter_eq_self.mpr fun i hi =>
      decide_eq_true (Store.find?_eq_none_iff.mp habsent i hi)
  refine .ofStore (.next hcounted ?_)
  show Works choose
    (⟨s.capacity, s.maxItemSize, (s.size : Int) + job.entry.body.length,
      s.items.filter (·.1 ≠ job.key) ++ [(job.key, job.entry)]⟩,
      dropped (s.find? job.key) .finish) _
  rw [hothers, habsent]
  exact .refl hcounted

/-! ## Whole calls -/

theorem startInsert_of_not_fits (h : ¬ s.Fits job.entry) :
    startInsert (ofStore s) job = .finished :=
  if_pos (Store.not_fits_iff.mp h)

theorem startInsert_of_fits (h : s.Fits job.entry) :
    startInsert (ofStore s) job = .removing job.key (.measure job) :=
  if_neg fun hrefused => Store.not_fits_iff.mpr hrefused h

/-- **A call that works alone** comes to its end, and leaves what the store
makes of the demand. -/
theorem works_callOf (h : s.InOrder) (d : Demand) :
    Works choose (ofStore s, Crowd.callOf (ofStore s) d)
      (ofStore (s.perform choose d), .finished) := by
  cases d with
  | remove key => exact works_removing h key .finish
  | get key now => exact works_looking h key now
  | insert job =>
    show Works choose (ofStore s, startInsert (ofStore s) job)
      (ofStore (s.insert choose job.now job.key job.entry).2, .finished)
    by_cases hfits : s.Fits job.entry
    · have habsent := (Store.shrinks_makeRoom (s.remove job.key) choose job.now
        job.entry.body.length).find?_eq_none (Store.find?_remove s job.key)
      rw [startInsert_of_fits job hfits, Store.insert_of_fits choose job.now hfits]
      exact ((works_removing h job.key (.measure job)).trans
        (works_measuring job (h.remove job.key))).trans (works_adding job habsent)
    · rw [startInsert_of_not_fits job hfits, Store.insert_of_not_fits choose job.now hfits]
      exact .done s _

end SharedStore

namespace Store

/-- **The books of a store are in order after every run of demands**, for
any limits, at any times and whichever entries are given up. The counter is
the sum of the stored bodies and within the capacity, no body is larger
than the limits allow, and no key has two entries. Making room for what
could fit at all ends with the room made. And whatever is demanded next,
the steps in which it is done come to an end at the store that the demand
leaves, with the counter never below zero on the way. -/
theorem run_inOrder (capacity maxItemSize : Nat) (past : List (Chooser × Demand)) :
    let s := (Store.empty capacity maxItemSize).run past
    s.size = bytes s.items
      ∧ s.size ≤ capacity
      ∧ (∀ i ∈ s.items, i.2.body.length ≤ min maxItemSize capacity)
      ∧ (s.items.map (·.1)).Nodup
      ∧ (∀ choose now needed, needed ≤ capacity →
        (s.makeRoom choose now needed).size + needed ≤ capacity)
      ∧ (∀ choose d, SharedStore.Works choose
        (.ofStore s, Crowd.callOf (.ofStore s) d)
        (.ofStore (s.perform choose d), .finished)) := by
  intro s
  have h : s.InOrder := (InOrder.empty capacity maxItemSize).run past
  obtain ⟨hcapacity, hmax⟩ := limits_run (.empty capacity maxItemSize) past
  have hcapacity : s.capacity = capacity := hcapacity
  have hmax : s.maxItemSize = maxItemSize := hmax
  refine ⟨h.size_eq, hcapacity ▸ h.size_le, ?_, h.keys, ?_, ?_⟩
  · intro i hi
    rw [← hcapacity, ← hmax]
    exact h.length_le i hi
  · intro choose now needed hneeded
    have hroom := (h.makeRoom choose now needed).2
    rw [hcapacity] at hroom
    exact hroom hneeded
  · exact fun choose d => SharedStore.works_callOf h d

/-- A body of six bytes, to be kept for a minute. -/
def sixBytes : Entry := ⟨.ok, ⟨[]⟩, List.replicate 6 97, ⟨60000000000⟩⟩

/-- With one body of six bytes in a store of ten there is no room for
another, and none is needed for long: the first is given up. -/
theorem run_inOrder_evicting :
    let choose : Chooser := fun _ => 0
    let s := (Store.empty 10 10).run [(choose, .insert ⟨"a", sixBytes, ⟨0⟩⟩)]
    s.size = 6 ∧ 6 ≤ 10 ∧ (s.makeRoom choose ⟨0⟩ 6).size + 6 ≤ 10
      ∧ (s.perform choose (.insert ⟨"b", sixBytes, ⟨0⟩⟩)).items = [("b", sixBytes)] := by
  intro choose s
  obtain ⟨hsize, -, -, -, hroom, -⟩ :=
    run_inOrder 10 10 [(choose, .insert ⟨"a", sixBytes, ⟨0⟩⟩)]
  exact ⟨hsize.trans (by decide +kernel), by decide, hroom choose ⟨0⟩ 6 (by decide), by cbv⟩

end Store

end Gatehouse.Cache
