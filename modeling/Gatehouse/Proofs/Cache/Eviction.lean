import Mathlib
import Gatehouse.Proofs.Cache.Accounting

/-!
# What an insertion gives up

An insertion gives up no more than it has to, in three degrees. Where the
new entry fits beside the others, none of them leaves, not even a stale one.
Where it does not, all stale entries leave, and if that is enough nothing
else does. Only then do fresh entries leave, one at a time and in any
order, and it ends with the first that is enough: the last one given up
would have been one too many.

The store takes its decisions by the counter, but what is said here is said
about the bodies. The two are the same where the books are in order, and the
entry under the key itself counts with neither: it is gone before room is
made.
-/

namespace Gatehouse.Cache

namespace Store

variable {s : Store} {key : String} {e : Entry}

/-- The entries under other keys. -/
def others (s : Store) (key : String) : List Item := s.items.filter (·.1 ≠ key)

/-! ## Room -/

section Room

variable (choose : Chooser) {needed : Nat}

/-- **Eviction stops in time.** Where something has to leave, there is one
entry among those that left without which there would be too much. -/
theorem InOrder.exists_evicted (h : s.InOrder) (hneeded : needed ≤ s.capacity)
    (hfull : s.capacity < bytes s.items + needed) :
    ∃ i ∈ s.items, i ∉ (s.evict choose needed).items
      ∧ s.capacity < bytes (s.evict choose needed).items + i.2.body.length + needed := by
  induction s using Store.evict.induct choose needed with
  | case1 s hfits =>
    rw [h.size_eq] at hfits
    exact absurd hfits (Nat.not_le.mpr hfull)
  | case2 s hfits hvictim =>
    -- nothing is left, so nothing is counted
    have hnil : bytes s.items = 0 := by rw [eq_nil_of_victim? choose hvictim, bytes]
    omega
  | case3 s hfits i hvictim hlt ih =>
    have hi : i ∈ s.items := List.mem_of_getElem? hvictim
    have hcapacity := (shrinks_remove s i.1).capacity
    have hbytes : bytes (s.remove i.1).items + i.2.body.length = bytes s.items := by
      rw [items_remove]
      exact bytes_filter_ne_add h.keys hi
    rw [evict_eq, if_neg hfits, hvictim]
    show ∃ j ∈ s.items, j ∉ ((s.remove i.1).evict choose needed).items
      ∧ s.capacity < bytes ((s.remove i.1).evict choose needed).items + j.2.body.length + needed
    by_cases henough : (s.remove i.1).size + needed ≤ (s.remove i.1).capacity
    · rw [evict_eq, if_pos henough]
      refine ⟨i, hi, ?_, ?_⟩
      · rw [items_remove]
        simp
      · omega
    · have hfull' : (s.remove i.1).capacity < bytes (s.remove i.1).items + needed := by
        rw [← (h.remove i.1).size_eq]
        exact Nat.not_le.mp henough
      obtain ⟨j, hj, hgone, hover⟩ := ih (h.remove i.1) (hcapacity ▸ hneeded) hfull'
      exact ⟨j, (shrinks_remove s i.1).mem hj, hgone, hcapacity ▸ hover⟩

/-- Nothing leaves while there is room. -/
theorem InOrder.makeRoom_of_fits (h : s.InOrder) (now : Instant)
    (hfits : bytes s.items + needed ≤ s.capacity) : s.makeRoom choose now needed = s := by
  rw [← h.size_eq] at hfits
  exact if_pos hfits

/-- Where there is no room, the stale entries leave before any other. -/
theorem InOrder.makeRoom_of_full (h : s.InOrder) (now : Instant)
    (hfull : s.capacity < bytes s.items + needed) :
    s.makeRoom choose now needed = (s.purge now).evict choose needed := by
  rw [← h.size_eq] at hfull
  exact if_neg (Nat.not_le.mpr hfull)

/-- No other leaves if that is enough. -/
theorem InOrder.evict_of_fits (h : s.InOrder) (hfits : bytes s.items + needed ≤ s.capacity) :
    s.evict choose needed = s := by
  rw [← h.size_eq] at hfits
  rw [evict_eq, if_pos hfits]

end Room

/-! ## Insertion -/

section Insertion

variable (choose : Chooser) (now : Instant)

/-- The entries under other keys that are fresh. -/
def freshOthers (s : Store) (key : String) (now : Instant) : List Item :=
  (s.others key).filter fun i => i.2.isFresh now

/-- Beside the new entry there is what is left when room has been made. -/
theorem others_insert_of_fits (h : s.Fits e) :
    (s.insert choose now key e).2.others key
      = ((s.remove key).makeRoom choose now e.body.length).items := by
  have hnone := (shrinks_makeRoom (s.remove key) choose now e.body.length).find?_eq_none
    (find?_remove s key)
  have hkept : ∀ i ∈ ((s.remove key).makeRoom choose now e.body.length).items,
      decide (i.1 ≠ key) = true :=
    fun i hi => decide_eq_true (find?_eq_none_iff.mp hnone i hi)
  rw [insert_of_fits choose now h]
  show List.filter _ (_ ++ [(key, e)]) = _
  rw [List.filter_append, List.filter_eq_self.mpr hkept]
  simp

variable (h : s.InOrder) (hfits : s.Fits e)
include h hfits

/-- **All others stay** if the new entry fits beside them. -/
theorem InOrder.others_insert_of_room
    (hroom : bytes (s.others key) + e.body.length ≤ s.capacity) :
    (s.insert choose now key e).2.others key = s.others key := by
  rw [← (shrinks_remove s key).capacity] at hroom
  have hothers : (s.remove key).items = s.others key := items_remove s key
  rw [← hothers] at hroom
  rw [others_insert_of_fits choose now hfits, (h.remove key).makeRoom_of_fits choose now hroom,
    hothers]

/-- If it does not, what stays is what eviction leaves of the fresh ones. -/
theorem InOrder.exists_insert_of_full
    (hfull : s.capacity < bytes (s.others key) + e.body.length) :
    ∃ t : Store, t.InOrder ∧ t.capacity = s.capacity ∧ t.items = s.freshOthers key now
      ∧ (s.insert choose now key e).2.others key = (t.evict choose e.body.length).items := by
  have hcapacity := (shrinks_remove s key).capacity
  have hothers : (s.remove key).items = s.others key := items_remove s key
  refine ⟨(s.remove key).purge now, (h.remove key).purge now, hcapacity,
    congrArg (List.filter _) hothers, ?_⟩
  rw [← hcapacity, ← hothers] at hfull
  rw [others_insert_of_fits choose now hfits, (h.remove key).makeRoom_of_full choose now hfull]

/-- **All fresh others stay** if the new entry fits beside these. -/
theorem InOrder.others_insert_of_freshRoom
    (hfull : s.capacity < bytes (s.others key) + e.body.length)
    (hroom : bytes (s.freshOthers key now) + e.body.length ≤ s.capacity) :
    (s.insert choose now key e).2.others key = s.freshOthers key now := by
  obtain ⟨t, ht, hcapacity, hitems, hkept⟩ := h.exists_insert_of_full choose now hfits hfull
  rw [← hcapacity, ← hitems] at hroom
  rw [hkept, ht.evict_of_fits choose hroom, hitems]

/-- **No fresh other leaves needlessly.** -/
theorem InOrder.others_insert_of_noRoom
    (hfull : s.capacity < bytes (s.others key) + e.body.length)
    (hmore : s.capacity < bytes (s.freshOthers key now) + e.body.length) :
    ((s.insert choose now key e).2.others key).Sublist (s.freshOthers key now)
      ∧ ∃ i ∈ s.freshOthers key now, i ∉ (s.insert choose now key e).2.others key
        ∧ s.capacity < bytes ((s.insert choose now key e).2.others key) + i.2.body.length
          + e.body.length := by
  obtain ⟨t, ht, hcapacity, hitems, hkept⟩ := h.exists_insert_of_full choose now hfits hfull
  rw [hkept, ← hitems, ← hcapacity]
  rw [← hcapacity, ← hitems] at hmore
  exact ⟨(shrinks_evict choose _ t).items,
    ht.exists_evicted choose (hcapacity ▸ hfits.2) hmore⟩

end Insertion

/-- **What an insertion gives up**, on any store that can come about, for any
entry, at any time and whichever entries are chosen. An entry that the store
admits is found under its key afterwards. The others are all kept if the new
entry fits beside them. If it does not, the stale ones are gone; the fresh
ones are all kept if the new entry fits beside those, and otherwise some of
them are, but so that there is one among those given up with which there
would be too much. An entry that the store does not admit changes nothing. -/
theorem run_insert_givesUp (capacity maxItemSize : Nat) (past : List (Chooser × Demand))
    (choose : Chooser) (now : Instant) (key : String) (e : Entry) :
    let s := (Store.empty capacity maxItemSize).run past
    let others := s.others key
    let fresh := s.freshOthers key now
    let t := (s.insert choose now key e).2
    let kept := t.others key
    ((s.insert choose now key e).1 = true ↔ e.body.length ≤ min maxItemSize capacity)
      ∧ ((s.insert choose now key e).1 = false → t = s)
      ∧ ((s.insert choose now key e).1 = true →
        t.find? key = some e
          ∧ (bytes others + e.body.length ≤ capacity → kept = others)
          ∧ (capacity < bytes others + e.body.length →
            (bytes fresh + e.body.length ≤ capacity → kept = fresh)
              ∧ (capacity < bytes fresh + e.body.length →
                kept.Sublist fresh
                  ∧ ∃ i ∈ fresh, i ∉ kept
                    ∧ capacity < bytes kept + i.2.body.length + e.body.length))) := by
  intro s others fresh t kept
  have hbooks : s.InOrder := (InOrder.empty capacity maxItemSize).run past
  obtain ⟨hcapacity, hmax⟩ : s.capacity = capacity ∧ s.maxItemSize = maxItemSize :=
    limits_run (.empty capacity maxItemSize) past
  have hadmits : s.Fits e ↔ e.body.length ≤ min maxItemSize capacity := by
    rw [← hcapacity, ← hmax, le_min_iff]
    exact Iff.rfl
  by_cases hfits : s.Fits e
  · have hstored : (s.insert choose now key e).1 = true := by rw [insert_of_fits choose now hfits]
    refine ⟨iff_of_true hstored (hadmits.mp hfits), fun hrefused => ?_, fun _ => ⟨?_, ?_, ?_⟩⟩
    · exact absurd (hstored.symm.trans hrefused) nofun
    · exact find?_insert_of_fits choose now hfits
    · rw [← hcapacity]
      exact hbooks.others_insert_of_room choose now hfits
    · rw [← hcapacity]
      exact fun hfull => ⟨hbooks.others_insert_of_freshRoom choose now hfits hfull,
        hbooks.others_insert_of_noRoom choose now hfits hfull⟩
  · have hrefused : s.insert choose now key e = (false, s) := insert_of_not_fits choose now hfits
    have hnotStored : (s.insert choose now key e).1 ≠ true := by
      rw [hrefused]
      exact nofun
    exact ⟨iff_of_false hnotStored (mt hadmits.mpr hfits), fun _ => congrArg Prod.snd hrefused,
      fun hstored => absurd hstored hnotStored⟩

/-- A store of ten bytes holds three bodies, of four, three and three bytes,
and the first is stale. Five more do not fit beside the two others, and one
of these is enough to give up. -/
theorem run_insert_givesUp_one :
    let past : List (Chooser × Demand) :=
      [(fun _ => 0, .insert (.ofLength "stale" 4 1)), (fun _ => 0, .insert (.ofLength "a" 3 60)),
        (fun _ => 0, .insert (.ofLength "b" 3 60))]
    let s := (Store.empty 10 10).run past
    let job := Insertion.ofLength "new" 5 60
    let kept := (s.insert (fun _ => 1) ⟨2000000000⟩ job.key job.entry).2.others "new"
    bytes (s.others "new") = 10 ∧ kept.map (·.1) = ["a"]
      ∧ ∃ i ∈ s.freshOthers "new" ⟨2000000000⟩, i ∉ kept
        ∧ 10 < bytes kept + i.2.body.length + 5 := by
  intro past s job kept
  obtain ⟨hstored, -, hkept⟩ :=
    run_insert_givesUp 10 10 past (fun _ => 1) ⟨2000000000⟩ job.key job.entry
  obtain ⟨-, -, hfull⟩ := hkept (hstored.mpr (by decide +kernel))
  obtain ⟨-, hmore⟩ := hfull (by decide +kernel)
  exact ⟨by decide +kernel, by decide +kernel, (hmore (by decide +kernel)).2⟩

end Store

end Gatehouse.Cache
