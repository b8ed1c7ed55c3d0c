import Mathlib
import Gatehouse.Proofs.Cache.Accounting

/-!
# The books of a store that calls share

While calls are at work on a shared store, its counter and its entries do
not agree: an entry has left the map and its bytes are still counted, or
the bytes of an entry are counted that is not there yet. So the invariant
of a store that is used by one at a time says nothing between two steps.

What holds instead is that nobody forgets. The difference between counter
and entries is what the calls still have to do, each for its own part: a
call about to subtract owes the bytes of the entry it took out, and a call
about to put an entry in owes the entry whose bytes it has added
(`Call.owed`). A step of a call settles as much of its debt as it changes
the difference (`Stepped.balance`), and leaves the debts of the others alone.
Nothing here depends on which keys the calls are about: two insertions may
work on one key, since what the second displaces becomes its debt.

A call that is finished owes nothing, so the books are in order whenever
no call is at work. And a debt is never negative, so the counter is never
below what is stored.
-/

namespace Gatehouse.Cache

/-! ## Steps -/

/-- The insertion that is still to be done. -/
def Next.job? : Next → Option Insertion
  | .finish => none
  | .measure job | .remeasure job => some job

/-- The insertion that a call is at work on, if its entry is not in yet. -/
def Call.job? : Call → Option Insertion
  | .finished | .looking _ _ => none
  | .removing _ next | .subtracting _ next => next.job?
  | .measuring job | .purging job | .remeasuring job | .choosing job | .adding job
  | .putting job => some job

/-- Whether a call has nothing in hand: no bytes to subtract, and no entry
that it has found room for. -/
def Call.isFree : Call → Bool
  | .subtracting _ _ | .adding _ | .putting _ => false
  | _ => true

@[simp] theorem Next.job?_call (next : Next) : next.call.job? = next.job? := by
  cases next <;> rfl

@[simp] theorem Next.isFree_call (next : Next) : next.call.isFree = true := by
  cases next <;> rfl

namespace SharedStore

variable {s : SharedStore} {key : String} {e : Entry} {call : Call} {t : SharedStore × Call}

@[simp] theorem job?_dropped (e : Option Entry) (next : Next) :
    (dropped e next).job? = next.job? := by
  cases e with
  | none => exact next.job?_call
  | some e => rfl

/-- **What a step can do.** Most of what a call does is looking and deciding,
with nothing in hand. Of the rest there are six kinds, and a call is let in
only if there is room by the counter, or if there is nothing to give up. -/
inductive Stepped (s : SharedStore) : Call → SharedStore × Call → Prop
  | goOn {call call' : Call} (hfree : call.isFree = true) (hfree' : call'.isFree = true)
      (hjob : ∀ job, call'.job? = some job → call.job? = some job) :
    Stepped s call (s, call')
  | takeOut (key : String) (next : Next) :
    Stepped s (.removing key next)
      ({ s with items := s.without key }, dropped (s.find? key) next)
  | settle (bytes : Nat) (next : Next) :
    Stepped s (.subtracting bytes next) ({ s with size := s.size - bytes }, next.call)
  | purge (job : Insertion) :
    Stepped s (.purging job)
      ({ s with
        size := s.size - Store.bytes (s.items.filter fun i => !i.2.isFresh job.now)
        items := s.items.filter fun i => i.2.isFresh job.now }, .remeasuring job)
  | letIn {call : Call} (job : Insertion) (hfree : call.isFree = true)
      (hjob : call.job? = some job)
      (hroom : s.size + job.entry.body.length ≤ s.capacity ∨ s.items = []) :
    Stepped s call (s, .adding job)
  | count (job : Insertion) :
    Stepped s (.adding job)
      ({ s with size := s.size + job.entry.body.length }, .putting job)
  | put (job : Insertion) :
    Stepped s (.putting job)
      ({ s with items := s.without job.key ++ [(job.key, job.entry)] },
        dropped (s.find? job.key) .finish)

theorem stepped_step (s : SharedStore) (pick : Nat) (call : Call) :
    s.Stepped call (s.step pick call) := by
  cases call with
  | finished => exact .goOn rfl rfl fun _ => id
  | looking key now =>
    simp only [step]
    split
    · exact .goOn rfl rfl nofun
    · split <;> exact .goOn rfl rfl nofun
  | removing key next => exact .takeOut key next
  | subtracting bytes next => exact .settle bytes next
  | measuring job =>
    simp only [step]
    split
    · next hfits => exact .letIn job rfl rfl (.inl hfits)
    · exact .goOn rfl rfl fun _ => id
  | purging job => exact .purge job
  | remeasuring job =>
    simp only [step]
    split
    · next hfits => exact .letIn job rfl rfl (.inl hfits)
    · exact .goOn rfl rfl fun _ => id
  | choosing job =>
    simp only [step]
    split
    · next hvictim => exact .letIn job rfl rfl (.inr (Store.eq_nil_of_victim? _ hvictim))
    · exact .goOn rfl rfl fun _ => id
  | adding job => exact .count job
  | putting job => exact .put job

end SharedStore

/-! ## Turns -/

namespace Crowd

/-- Nobody at work, on a store without entries. -/
def empty (capacity maxItemSize : Nat) : Crowd :=
  ⟨.ofStore (.empty capacity maxItemSize), []⟩

/-- **What a turn can do**: nothing, or a call joins, or one of the calls
makes a step and the others stay as they are. -/
inductive Turned : Crowd → Crowd → Prop
  | absent (c : Crowd) : Turned c c
  | start (s : SharedStore) (calls : List Call) (d : Demand) :
    Turned ⟨s, calls⟩ ⟨s, calls ++ [callOf s d]⟩
  | advance {s : SharedStore} {call : Call} {t : SharedStore × Call} (hstep : s.Stepped call t)
      (before after : List Call) :
    Turned ⟨s, before ++ call :: after⟩ ⟨t.1, before ++ t.2 :: after⟩

theorem turn_advance_of_none {c : Crowd} {who : Nat} (h : c.calls[who]? = none) (pick : Nat) :
    c.turn (.advance who pick) = c := by
  simp [turn, h]

theorem turn_advance_of_some {c : Crowd} {who : Nat} {call : Call}
    (h : c.calls[who]? = some call) (pick : Nat) :
    c.turn (.advance who pick)
      = ⟨(c.store.step pick call).1, c.calls.set who (c.store.step pick call).2⟩ := by
  simp [turn, h]

theorem turned_turn (c : Crowd) (t : Turn) : Turned c (c.turn t) := by
  cases t with
  | start d => exact .start c.store c.calls d
  | advance who pick =>
    cases hcall : c.calls[who]? with
    | none =>
      rw [turn_advance_of_none hcall]
      exact .absent c
    | some call =>
      obtain ⟨s, calls⟩ := c
      obtain ⟨hwho, rfl⟩ := List.getElem?_eq_some_iff.mp hcall
      obtain ⟨before, after, hcalls, -, hset⟩ : ∃ before after,
          calls = before ++ calls[who] :: after ∧ before.length = who
            ∧ calls.set who (s.step pick calls[who]).2
              = before ++ (s.step pick calls[who]).2 :: after := List.exists_of_set hwho
      rw [turn_advance_of_some hcall]
      show Turned _ ⟨(s.step pick calls[who]).1, calls.set who (s.step pick calls[who]).2⟩
      rw [hset]
      generalize calls[who] = call at hcalls ⊢
      rw [hcalls]
      exact .advance (s.stepped_step pick call) before after

/-- What every turn preserves is preserved by a run. -/
theorem run_induction {P : Crowd → Prop} (hturn : ∀ c d, Turned c d → P c → P d)
    {c : Crowd} (h : P c) (turns : List Turn) : P (c.run turns) := by
  induction turns generalizing c with
  | nil => exact h
  | cons t turns ih => exact ih (hturn c _ (turned_turn c t) h)

/-- A call begins with nothing in hand. -/
theorem isFree_callOf (s : SharedStore) (d : Demand) : (callOf s d).isFree = true := by
  cases d with
  | get key now => rfl
  | remove key => rfl
  | insert job =>
    show (SharedStore.startInsert s job).isFree = true
    unfold SharedStore.startInsert
    split <;> rfl

end Crowd

/-! ## Debts -/

/-- **What a call owes**: the bytes that are counted because of it, but not
stored. -/
def Call.owed : Call → Nat
  | .subtracting bytes _ => bytes
  | .putting job => job.entry.body.length
  | _ => 0

/-- Who has nothing in hand owes nothing. -/
theorem Call.owed_of_isFree {call : Call} (h : call.isFree = true) : call.owed = 0 := by
  cases call with
  | subtracting _ _ | putting _ => cases h
  | _ => rfl

namespace SharedStore

variable {s : SharedStore} {key : String} {e : Entry} {call : Call} {t : SharedStore × Call}

/-- What is found under a key is an entry of the store. -/
theorem mem_of_find? (h : s.find? key = some e) : (key, e) ∈ s.items :=
  Store.mem_of_find? (s := ⟨s.capacity, s.maxItemSize, 0, s.items⟩) h

theorem find?_eq_none_iff : s.find? key = none ↔ ∀ i ∈ s.items, i.1 ≠ key :=
  Store.find?_eq_none_iff (s := ⟨s.capacity, s.maxItemSize, 0, s.items⟩)

/-- **Who takes a key out owes what was under it.** -/
theorem bytes_without_add (hkeys : (s.items.map (·.1)).Nodup) (key : String) (next : Next) :
    Store.bytes (s.without key) + (dropped (s.find? key) next).owed
      = Store.bytes s.items := by
  cases hfind : s.find? key with
  | none =>
    have hothers : s.without key = s.items :=
      List.filter_eq_self.mpr fun i hi => decide_eq_true (find?_eq_none_iff.mp hfind i hi)
    rw [hothers]
    exact congrArg (Store.bytes s.items + ·) (Call.owed_of_isFree next.isFree_call)
  | some e => exact Store.bytes_filter_ne_add hkeys (mem_of_find? hfind)

/-- What is put in is there beside what was not under its key. -/
theorem bytes_put (s : SharedStore) (job : Insertion) :
    Store.bytes (s.without job.key ++ [(job.key, job.entry)])
      = Store.bytes (s.without job.key) + job.entry.body.length :=
  Store.bytes_append _ _

/-- **A step settles what it changes.** What a step adds to the counter is
what it adds to the entries and to the debt of the call together. -/
theorem Stepped.balance (h : s.Stepped call t) (hkeys : (s.items.map (·.1)).Nodup) :
    t.1.size + (Store.bytes s.items + call.owed)
      = s.size + (Store.bytes t.1.items + t.2.owed) := by
  cases h with
  | goOn hfree hfree' _ =>
    rw [Call.owed_of_isFree hfree, Call.owed_of_isFree hfree']
  | takeOut key next =>
    have hout := bytes_without_add hkeys key next
    show s.size + ((Store.bytes s.items : Int) + (0 : Nat))
      = s.size + (Store.bytes (s.without key) + ((dropped (s.find? key) next).owed : Int))
    omega
  | settle bytes next =>
    show s.size - bytes + (Store.bytes s.items + (bytes : Int))
      = s.size + (Store.bytes s.items + (next.call.owed : Int))
    rw [Call.owed_of_isFree next.isFree_call]
    omega
  | purge job =>
    have hsplit := Store.bytes_filter_add_filter_not (fun i => i.2.isFresh job.now) s.items
    show s.size - _ + ((Store.bytes s.items : Int) + (0 : Nat))
      = s.size + (Store.bytes (s.items.filter fun i => i.2.isFresh job.now) + ((0 : Nat) : Int))
    omega
  | letIn job hfree _ _ =>
    rw [Call.owed_of_isFree hfree]
    rfl
  | count job =>
    show s.size + job.entry.body.length + ((Store.bytes s.items : Int) + (0 : Nat))
      = s.size + (Store.bytes s.items + (job.entry.body.length : Int))
    omega
  | put job =>
    have hout := bytes_without_add hkeys job.key .finish
    have hput := s.bytes_put job
    show s.size + (Store.bytes s.items + (job.entry.body.length : Int))
      = s.size + (Store.bytes (s.without job.key ++ [(job.key, job.entry)])
        + ((dropped (s.find? job.key) .finish).owed : Int))
    omega

/-- No step gives a key a second entry. -/
theorem Stepped.keys (h : s.Stepped call t) (hkeys : (s.items.map (·.1)).Nodup) :
    (t.1.items.map (·.1)).Nodup := by
  have hfilter (p : Item → Bool) : ((s.items.filter p).map (·.1)).Nodup :=
    hkeys.sublist (List.filter_sublist.map _)
  cases h with
  | takeOut key next => exact hfilter _
  | purge job => exact hfilter _
  | put job =>
    refine Store.nodup_keys_append (hfilter _) (fun i hi => ?_) job.entry
    exact of_decide_eq_true (List.mem_filter.mp hi).2
  | _ => exact hkeys

end SharedStore

/-! ## The invariant -/

namespace Crowd

/-- What the calls owe together. -/
def owed (c : Crowd) : Nat := (c.calls.map Call.owed).sum

/-- Calls that are finished owe nothing. -/
theorem owed_of_isQuiet {c : Crowd} (h : c.isQuiet = true) : c.owed = 0 := by
  refine List.sum_eq_zero fun n hn => ?_
  obtain ⟨call, hcall, rfl⟩ := List.mem_map.mp hn
  have hfinished : call = .finished := of_decide_eq_true (List.all_eq_true.mp h call hcall)
  rw [hfinished]
  rfl

/-- **A crowd that keeps its books.** -/
structure Accounted (c : Crowd) : Prop where
  /-- What is counted is stored, or somebody owes it. -/
  size_eq : c.store.size = ((Store.bytes c.store.items + c.owed : Nat) : Int)
  /-- Each key has one entry. -/
  keys : (c.store.items.map (·.1)).Nodup

namespace Accounted

variable {c d : Crowd}

theorem empty (capacity maxItemSize : Nat) : (Crowd.empty capacity maxItemSize).Accounted :=
  ⟨rfl, .nil⟩

theorem turn (hturn : Turned c d) (h : c.Accounted) : d.Accounted := by
  cases hturn with
  | absent => exact h
  | start s calls demand =>
    have howed : Crowd.owed ⟨s, calls ++ [callOf s demand]⟩ = Crowd.owed ⟨s, calls⟩ := by
      simp [Crowd.owed, Call.owed_of_isFree (isFree_callOf s demand)]
    refine ⟨?_, h.keys⟩
    rw [howed]
    exact h.size_eq
  | @advance s call t hstep before after =>
    have hsize := h.size_eq
    have hbalance := hstep.balance h.keys
    refine ⟨?_, hstep.keys h.keys⟩
    -- the debts of the others are on both sides
    simp only [Crowd.owed, List.map_append, List.map_cons, List.sum_append,
      List.sum_cons] at hsize ⊢
    omega

theorem run (h : c.Accounted) (turns : List Turn) : (c.run turns).Accounted :=
  run_induction (fun _ _ hturn hc => hc.turn hturn) h turns

/-- What is stored is counted. -/
theorem bytes_le_size (h : c.Accounted) : (Store.bytes c.store.items : Int) ≤ c.store.size := by
  rw [h.size_eq]
  exact Int.ofNat_le.mpr (Nat.le_add_right _ _)

end Accounted

/-! ## Runs -/

/-- **The books of a shared store are kept** in every interleaving of any
number of lookups, insertions and removals, on whatever keys. The counter
is never below zero, and not below the bodies of any of the stored entries
either, so that it bears their being subtracted one by one. Whenever no call
is at work, the counter is the sum of the stored bodies. -/
theorem run_keepsBooks (capacity maxItemSize : Nat) (turns : List Turn) :
    let c := (empty capacity maxItemSize).run turns
    0 ≤ c.store.size
      ∧ (∀ gone : List Item, gone.Sublist c.store.items →
        (Store.bytes gone : Int) ≤ c.store.size)
      ∧ (c.isQuiet = true → c.store.size = Store.bytes c.store.items) := by
  intro c
  have h : c.Accounted := (Accounted.empty capacity maxItemSize).run turns
  have hstored := h.bytes_le_size
  refine ⟨?_, ?_, ?_⟩
  · exact (Int.natCast_nonneg _).trans hstored
  · intro gone hgone
    exact (Int.ofNat_le.mpr (Store.bytes_le_of_sublist hgone)).trans hstored
  · intro hquiet
    rw [h.size_eq, owed_of_isQuiet hquiet, Nat.add_zero]

/-- Two insertions race for one key, and both have found room before either
has put its entry in. The second to do so displaces the entry of the first
and owes its bytes, which are still counted, until its last step. -/
theorem run_keepsBooks_racing :
    let race : List Turn :=
      [.start (.insert (.ofLength "a" 6 60)), .start (.insert (.ofLength "a" 6 60)),
        .advance 0 0, .advance 1 0, .advance 0 0, .advance 1 0, .advance 0 0, .advance 1 0,
        .advance 0 0, .advance 1 0]
    let c := (empty 20 10).run race
    let d := (empty 20 10).run (race ++ [.advance 1 0])
    c.store.size = 12 ∧ Store.bytes c.store.items = 6 ∧ 0 ≤ c.store.size
      ∧ d.isQuiet = true ∧ d.store.size = Store.bytes d.store.items := by
  intro race c d
  obtain ⟨hnonneg, -, -⟩ := run_keepsBooks 20 10 race
  obtain ⟨-, -, hbooks⟩ := run_keepsBooks 20 10 (race ++ [.advance 1 0])
  have hquiet : d.isQuiet = true := by decide +kernel
  refine ⟨by decide +kernel, by decide +kernel, hnonneg, hquiet, hbooks hquiet⟩

end Crowd

end Gatehouse.Cache
