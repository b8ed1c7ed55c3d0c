import Gatehouse.Cache.Shared
import Gatehouse.Proofs.Cache.Store

/-!
# The books of a store are in order

A store does not sum its bodies up. It keeps a counter beside them, and
each way in which an entry comes or leaves adjusts the counter on its own.
The two stay in step because every adjustment is made for exactly the
entries that move, and that rests on there being one entry for each key:
a removal subtracts the bytes of the entry that it has found, but drops
everything under the key.

So the invariant (`InOrder`) is one about counter and keys together. It is
kept by everything that a store can be asked, and it is what makes room
for an entry be there when it is said to be: while the counter is above
zero there is an entry left to give up.
-/

namespace Gatehouse.Cache

namespace Store

/-! ## Bytes -/

theorem bytes_append (xs ys : List Item) :
    bytes (xs ++ ys) = bytes xs + bytes ys := by
  induction xs with
  | nil => exact (Nat.zero_add _).symm
  | cons i xs ih =>
    show i.2.body.length + bytes (xs ++ ys) = i.2.body.length + bytes xs + bytes ys
    rw [ih, Nat.add_assoc]

/-- What is taken out and what is left are the whole. -/
theorem bytes_filter_add_filter_not (p : Item → Bool) (items : List Item) :
    bytes (items.filter p) + bytes (items.filter fun i => !p i) = bytes items := by
  induction items with
  | nil => rfl
  | cons i items ih =>
    cases hp : p i with
    | true =>
      rw [List.filter_cons_of_pos hp, List.filter_cons_of_neg (by simp [hp])]
      show i.2.body.length + bytes (items.filter p) + _ = i.2.body.length + bytes items
      omega
    | false =>
      rw [List.filter_cons_of_neg (by simp [hp]), List.filter_cons_of_pos (by simp [hp])]
      show _ + (i.2.body.length + bytes (items.filter fun i => !p i))
        = i.2.body.length + bytes items
      omega

theorem length_le_bytes {i : Item} {items : List Item} (h : i ∈ items) :
    i.2.body.length ≤ bytes items := by
  induction items with
  | nil => cases h
  | cons j items ih =>
    show _ ≤ j.2.body.length + bytes items
    rcases List.mem_cons.mp h with rfl | h
    · exact Nat.le_add_right _ _
    · exact (ih h).trans (Nat.le_add_left _ _)

/-- Fewer entries have no more bytes. -/
theorem bytes_le_of_sublist {xs ys : List Item} (h : xs.Sublist ys) : bytes xs ≤ bytes ys := by
  induction h with
  | slnil => exact le_rfl
  | cons i _ ih => exact ih.trans (Nat.le_add_left _ _)
  | cons_cons i _ ih => exact Nat.add_le_add_left ih _

/-- **Where keys are distinct, a key stands for one body**: without the
entries of the key, exactly that is missing. -/
theorem bytes_filter_ne_add {items : List Item} (hkeys : (items.map (·.1)).Nodup)
    {key : String} {e : Entry} (h : (key, e) ∈ items) :
    bytes (items.filter (·.1 ≠ key)) + e.body.length = bytes items := by
  induction items with
  | nil => cases h
  | cons i items ih =>
    obtain ⟨hi, hrest⟩ := List.nodup_cons.mp hkeys
    show _ = i.2.body.length + bytes items
    rcases List.mem_cons.mp h with rfl | h
    · have hothers : items.filter (·.1 ≠ key) = items := by
        refine List.filter_eq_self.mpr fun j hj => decide_eq_true fun hjkey => ?_
        exact hi (List.mem_map.mpr ⟨j, hj, hjkey⟩)
      rw [List.filter_cons_of_neg (by simp), hothers, Nat.add_comm]
    · have hother : decide (i.1 ≠ key) = true :=
        decide_eq_true fun hikey => hi (List.mem_map.mpr ⟨(key, e), h, hikey.symm⟩)
      rw [List.filter_cons, if_pos hother]
      show i.2.body.length + bytes (items.filter (·.1 ≠ key)) + _ = _
      have := ih hrest h
      omega

/-- An entry under a key that was not there is the only one under it. -/
theorem nodup_keys_append {items : List Item} (hkeys : (items.map (·.1)).Nodup)
    {key : String} (habsent : ∀ i ∈ items, i.1 ≠ key) (e : Entry) :
    ((items ++ [(key, e)]).map (·.1)).Nodup := by
  rw [List.map_append, List.nodup_append]
  refine ⟨hkeys, List.nodup_singleton _, ?_⟩
  intro k hk k' hk'
  obtain ⟨i, hi, rfl⟩ := List.mem_map.mp hk
  obtain rfl := List.mem_singleton.mp hk'
  exact habsent i hi

/-! ## The invariant -/

/-- **A store whose books are in order.** -/
structure InOrder (s : Store) : Prop where
  /-- The counter is the sum of the bodies. -/
  size_eq : s.size = bytes s.items
  /-- Each key has one entry. -/
  keys : (s.items.map (·.1)).Nodup
  size_le : s.size ≤ s.capacity
  length_le : ∀ i ∈ s.items, i.2.body.length ≤ min s.maxItemSize s.capacity

namespace InOrder

variable {s t : Store} {key : String} {e : Entry}

theorem empty (capacity maxItemSize : Nat) : (Store.empty capacity maxItemSize).InOrder :=
  ⟨rfl, .nil, Nat.zero_le _, nofun⟩

/-- A store that shrinks is still in order if its counter follows. -/
theorem of_shrinks (h : s.InOrder) (hst : s.Shrinks t) (hsize : t.size = bytes t.items)
    (hle : t.size ≤ s.size) : t.InOrder := by
  refine ⟨hsize, h.keys.sublist (hst.items.map _), ?_, fun i hi => ?_⟩
  · rw [hst.capacity]
    exact hle.trans h.size_le
  · rw [hst.capacity, hst.maxItemSize]
    exact h.length_le i (hst.mem hi)

/-! ### Entries that leave -/

/-- What a removal subtracts is there to be subtracted. -/
theorem length_le_size (h : s.InOrder) (hfind : s.find? key = some e) :
    e.body.length ≤ s.size := by
  rw [h.size_eq]
  exact length_le_bytes (mem_of_find? hfind)

theorem remove (h : s.InOrder) (key : String) : (s.remove key).InOrder := by
  cases hfind : s.find? key with
  | none => rwa [remove_of_eq_none hfind]
  | some e =>
    have hsize : (s.remove key).size = s.size - e.body.length := by
      rw [remove_of_eq_some hfind]
    have hbytes := bytes_filter_ne_add h.keys (mem_of_find? hfind)
    have heq := h.size_eq
    refine h.of_shrinks (shrinks_remove s key) ?_ ?_
    · rw [hsize, items_remove]
      omega
    · rw [hsize]
      exact Nat.sub_le _ _

theorem get (h : s.InOrder) (now : Instant) (key : String) :
    (s.get now key).2.InOrder := by
  unfold Store.get
  split
  · exact h
  · split
    · exact h
    · exact h.remove key

/-- The stale entries are there to be subtracted. -/
theorem stale_le_size (h : s.InOrder) (now : Instant) :
    bytes (s.items.filter fun i => !i.2.isFresh now) ≤ s.size := by
  have := bytes_filter_add_filter_not (fun i => i.2.isFresh now) s.items
  have := h.size_eq
  omega

theorem purge (h : s.InOrder) (now : Instant) : (s.purge now).InOrder := by
  have hsplit := bytes_filter_add_filter_not (fun i => i.2.isFresh now) s.items
  have heq := h.size_eq
  refine h.of_shrinks (shrinks_purge s now) ?_ (Nat.sub_le _ _)
  show s.size - _ = bytes (s.items.filter fun i => i.2.isFresh now)
  omega

end InOrder

/-! ## Room -/

section Room

variable (choose : Chooser)

/-- Somebody is chosen as long as anybody is left. -/
theorem eq_nil_of_victim? {items : List Item} (h : victim? choose items = none) :
    items = [] := by
  by_contra hne
  have hpos : 0 < items.length := List.length_pos_iff.mpr hne
  have hlt := Nat.mod_lt (choose items) hpos
  exact absurd (List.getElem?_eq_none_iff.mp h) (Nat.not_le.mpr hlt)

/-- **Eviction ends with room**: it stops short of that only where nothing
is left, and then the counter is zero. -/
theorem InOrder.evict {s : Store} (h : s.InOrder) (needed : Nat) :
    (s.evict choose needed).InOrder
      ∧ (needed ≤ s.capacity →
        (s.evict choose needed).size + needed ≤ s.capacity) := by
  induction s using evict.induct choose needed with
  | case1 s hfits =>
    rw [evict_eq, if_pos hfits]
    exact ⟨h, fun _ => hfits⟩
  | case2 s hfits hvictim =>
    rw [evict_eq, if_neg hfits, hvictim]
    refine ⟨h, fun hneeded => ?_⟩
    have hempty : s.size = 0 := by
      rw [h.size_eq, eq_nil_of_victim? choose hvictim]
      rfl
    show s.size + needed ≤ s.capacity
    omega
  | case3 s hfits i hvictim hlt ih =>
    rw [evict_eq, if_neg hfits, hvictim]
    obtain ⟨hin, hroom⟩ := ih (h.remove i.1)
    rw [(shrinks_remove s i.1).capacity] at hroom
    exact ⟨hin, hroom⟩

/-- **There is room where room was made.** -/
theorem InOrder.makeRoom {s : Store} (h : s.InOrder) (now : Instant) (needed : Nat) :
    (s.makeRoom choose now needed).InOrder
      ∧ (needed ≤ s.capacity →
        (s.makeRoom choose now needed).size + needed ≤ s.capacity) := by
  unfold Store.makeRoom
  split
  · next hfits => exact ⟨h, fun _ => hfits⟩
  · exact (h.purge now).evict choose needed

/-! ## Entries that come -/

theorem InOrder.insert {s : Store} (h : s.InOrder) (now : Instant) (key : String)
    (e : Entry) : (s.insert choose now key e).2.InOrder := by
  by_cases hfits : s.Fits e
  · -- what is left once room is made has no entry under the key
    have hshrinks := shrinks_makeRoom (s.remove key) choose now e.body.length
    have habsent := find?_eq_none_iff.mp (hshrinks.find?_eq_none (find?_remove s key))
    have hcapacity := (shrinks_remove s key).capacity
    obtain ⟨hin, hroom⟩ := (h.remove key).makeRoom choose now e.body.length
    have hlimits := (shrinks_remove s key).trans hshrinks
    rw [insert_of_fits choose now hfits]
    refine ⟨?_, ?_, ?_, ?_⟩
    · show _ + _ = bytes (_ ++ [(key, e)])
      rw [bytes_append, hin.size_eq]
      rfl
    · exact nodup_keys_append hin.keys habsent e
    · show _ + _ ≤ Store.capacity _
      rw [hlimits.capacity, ← hcapacity]
      exact hroom (hcapacity ▸ hfits.2)
    · intro i hi
      show _ ≤ min (Store.maxItemSize _) (Store.capacity _)
      rcases List.mem_append.mp hi with hold | hnew
      · exact hin.length_le i hold
      · obtain rfl := List.mem_singleton.mp hnew
        rw [hlimits.capacity, hlimits.maxItemSize]
        exact le_min hfits.1 hfits.2
  · rw [insert_of_not_fits choose now hfits]
    exact h

end Room

/-! ## Runs -/

/-- **What a demand makes of a store**, with a choice of the entries to give
up. -/
def perform (s : Store) (choose : Chooser) : Demand → Store
  | .get key now => (s.get now key).2
  | .insert job => (s.insert choose job.now job.key job.entry).2
  | .remove key => s.remove key

/-- **What demands make of a store**, one after the other, each at a time
and with a choice of its own. -/
def run (s : Store) (demands : List (Chooser × Demand)) : Store :=
  demands.foldl (fun s d => s.perform d.1 d.2) s

variable {s : Store}

theorem InOrder.perform (h : s.InOrder) (choose : Chooser) (d : Demand) :
    (s.perform choose d).InOrder := by
  cases d with
  | get key now => exact h.get now key
  | insert job => exact h.insert choose job.now job.key job.entry
  | remove key => exact h.remove key

theorem InOrder.run (h : s.InOrder) (demands : List (Chooser × Demand)) :
    (s.run demands).InOrder := by
  induction demands generalizing s with
  | nil => exact h
  | cons d rest ih => exact ih (h.perform d.1 d.2)

theorem limits_perform (s : Store) (choose : Chooser) (d : Demand) :
    (s.perform choose d).capacity = s.capacity
      ∧ (s.perform choose d).maxItemSize = s.maxItemSize := by
  cases d with
  | get key now => exact ⟨(shrinks_get s now key).capacity, (shrinks_get s now key).maxItemSize⟩
  | insert job => exact ⟨capacity_insert choose _ s _ _, maxItemSize_insert choose _ s _ _⟩
  | remove key => exact ⟨(shrinks_remove s key).capacity, (shrinks_remove s key).maxItemSize⟩

/-- The limits of a store never move. -/
theorem limits_run (s : Store) (demands : List (Chooser × Demand)) :
    (s.run demands).capacity = s.capacity
      ∧ (s.run demands).maxItemSize = s.maxItemSize := by
  induction demands generalizing s with
  | nil => exact ⟨rfl, rfl⟩
  | cons d rest ih =>
    obtain ⟨hcapacity, hmax⟩ := limits_perform s d.1 d.2
    obtain ⟨hcapacity', hmax'⟩ := ih (s.perform d.1 d.2)
    exact ⟨hcapacity'.trans hcapacity, hmax'.trans hmax⟩

end Store

/-- The insertion of a body of some length, at the clock's origin and for
some seconds. -/
def Insertion.ofLength (key : String) (length seconds : Nat) : Insertion :=
  ⟨key, ⟨.ok, ⟨[]⟩, List.replicate length 97, ⟨seconds * 1000000000⟩⟩, ⟨0⟩⟩

end Gatehouse.Cache
