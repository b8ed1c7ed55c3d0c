import Mathlib
import Gatehouse.Cache.Store

/-!
# What the operations of a store do

A store is changed in two ways only. It *shrinks*, which is what lookups,
removals and the making of room have in common: some entries leave, the
others stay as they are and in their order, and the limits do not move
(`Shrinks`). Or it takes an entry in, which is a shrinking that leaves
nothing under the key, with the entry added behind the rest
(`insert_of_fits`).

That is all that most facts about a store need. Which entries leave, and
why, is told for each operation on its own.
-/

namespace Gatehouse.Cache

namespace Store

variable {s t u : Store} {key : String} {e : Entry}

/-! ## Entries by key -/

/-- What is found under a key is an entry of the store. -/
theorem mem_of_find? (h : s.find? key = some e) : (key, e) ∈ s.items := by
  unfold find? at h
  obtain ⟨⟨k, e'⟩, hfind, he⟩ := Option.map_eq_some_iff.mp h
  have hk : k = key := by simpa using List.find?_some hfind
  obtain rfl : e' = e := he
  rw [← hk]
  exact List.mem_of_find?_eq_some hfind

/-- Nothing is found under a key exactly if no entry has it. -/
theorem find?_eq_none_iff : s.find? key = none ↔ ∀ i ∈ s.items, i.1 ≠ key := by
  simp [find?]

/-! ## Shrinking -/

/-- **A store that has shrunk**: it has the limits of the other one, and
some of its entries in their order. -/
structure Shrinks (s t : Store) : Prop where
  capacity : t.capacity = s.capacity
  maxItemSize : t.maxItemSize = s.maxItemSize
  items : t.items.Sublist s.items

namespace Shrinks

@[refl] theorem refl (s : Store) : s.Shrinks s := ⟨rfl, rfl, .refl _⟩

theorem trans (h : s.Shrinks t) (h' : t.Shrinks u) : s.Shrinks u :=
  ⟨h'.capacity.trans h.capacity, h'.maxItemSize.trans h.maxItemSize,
    h'.items.trans h.items⟩

theorem mem (h : s.Shrinks t) {i : Item} (hi : i ∈ t.items) : i ∈ s.items :=
  h.items.subset hi

/-- No key comes in when a store shrinks. -/
theorem find?_eq_none (h : s.Shrinks t) (hs : s.find? key = none) :
    t.find? key = none :=
  find?_eq_none_iff.mpr fun i hi => find?_eq_none_iff.mp hs i (h.mem hi)

end Shrinks

/-! ## Removal -/

/-- There is nothing to remove under a key without an entry. -/
theorem remove_of_eq_none (h : s.find? key = none) : s.remove key = s := by
  unfold remove
  rw [h]

theorem remove_of_eq_some (h : s.find? key = some e) :
    s.remove key = { s with
      size := s.size - e.body.length
      items := s.items.filter (·.1 ≠ key) } := by
  unfold remove
  rw [h]

/-- **A removal** leaves the entries under other keys. -/
theorem items_remove (s : Store) (key : String) :
    (s.remove key).items = s.items.filter (·.1 ≠ key) := by
  cases h : s.find? key with
  | none =>
    rw [remove_of_eq_none h]
    rw [find?_eq_none_iff] at h
    exact (List.filter_eq_self.mpr fun i hi => decide_eq_true (h i hi)).symm
  | some e => rw [remove_of_eq_some h]

theorem shrinks_remove (s : Store) (key : String) : s.Shrinks (s.remove key) := by
  have hitems : (s.remove key).items.Sublist s.items := by
    rw [items_remove]
    exact List.filter_sublist
  refine ⟨?_, ?_, hitems⟩ <;> · unfold remove; split <;> rfl

@[simp] theorem find?_remove (s : Store) (key : String) :
    (s.remove key).find? key = none := by
  rw [find?_eq_none_iff, items_remove]
  intro i hi
  exact of_decide_eq_true (List.mem_filter.mp hi).2

/-! ## Lookup -/

/-- **A lookup answers** with the entry under the key if that is fresh. -/
theorem get_eq_some_iff {now : Instant} :
    (s.get now key).1 = some e ↔ s.find? key = some e ∧ e.isFresh now = true := by
  unfold get
  cases h : s.find? key with
  | none => simp
  | some e' =>
    dsimp only
    by_cases hfresh : e'.isFresh now = true
    · rw [if_pos hfresh]
      constructor
      · rintro ⟨⟩
        exact ⟨rfl, hfresh⟩
      · exact And.left
    · rw [if_neg hfresh]
      constructor
      · exact nofun
      · rintro ⟨⟨⟩, hf⟩
        exact absurd hf hfresh

/-- A lookup that answers changes nothing. -/
theorem get_of_eq_some {now : Instant} (h : (s.get now key).1 = some e) :
    s.get now key = (some e, s) := by
  obtain ⟨hfind, hfresh⟩ := get_eq_some_iff.mp h
  unfold get
  rw [hfind]
  exact if_pos hfresh

theorem shrinks_get (s : Store) (now : Instant) (key : String) :
    s.Shrinks (s.get now key).2 := by
  unfold get
  split
  · exact .refl s
  · split
    · exact .refl s
    · exact shrinks_remove s key

/-! ## Room -/

theorem shrinks_purge (s : Store) (now : Instant) : s.Shrinks (s.purge now) :=
  ⟨rfl, rfl, List.filter_sublist⟩

/-- **One round of eviction.** -/
theorem evict_eq (choose : Chooser) (needed : Nat) (s : Store) :
    s.evict choose needed =
      if s.size + needed ≤ s.capacity then s
      else match victim? choose s.items with
        | none => s
        | some i => (s.remove i.1).evict choose needed := by
  rw [evict]
  split
  · rfl
  · split
    · next h => rw [h]
    · next i h =>
      conv_rhs => rw [h]

/-- Eviction is a sequence of removals. -/
theorem shrinks_evict (choose : Chooser) (needed : Nat) (s : Store) :
    s.Shrinks (s.evict choose needed) := by
  induction s using evict.induct choose needed with
  | case1 s hfits =>
    rw [evict_eq, if_pos hfits]
  | case2 s hfits hvictim =>
    rw [evict_eq, if_neg hfits, hvictim]
  | case3 s hfits i hvictim hlt ih =>
    rw [evict_eq, if_neg hfits, hvictim]
    exact (shrinks_remove s i.1).trans ih

theorem shrinks_makeRoom (s : Store) (choose : Chooser) (now : Instant)
    (needed : Nat) : s.Shrinks (s.makeRoom choose now needed) := by
  unfold makeRoom
  split
  · exact .refl s
  · exact (shrinks_purge s now).trans (shrinks_evict choose needed _)

/-! ## Insertion -/

section Insertion

variable (choose : Chooser) (now : Instant)

/-- **Whether a store admits an entry.** -/
def Fits (s : Store) (e : Entry) : Prop :=
  e.body.length ≤ s.maxItemSize ∧ e.body.length ≤ s.capacity

instance (s : Store) (e : Entry) : Decidable (s.Fits e) :=
  inferInstanceAs (Decidable (_ ∧ _))

/-- What a store admits it does not refuse. -/
theorem not_fits_iff : ¬ s.Fits e ↔
    (e.body.length > s.maxItemSize || e.body.length > s.capacity) = true := by
  unfold Fits
  rw [Bool.or_eq_true, decide_eq_true_eq, decide_eq_true_eq]
  omega

/-- An entry that is too large changes nothing. -/
theorem insert_of_not_fits (h : ¬ s.Fits e) :
    s.insert choose now key e = (false, s) :=
  if_pos (not_fits_iff.mp h)

/-- **An insertion** comes to the store that is left when the key and what
stands in the way are gone, with the entry added to it. -/
theorem insert_of_fits (h : s.Fits e) :
    s.insert choose now key e =
      let t := (s.remove key).makeRoom choose now e.body.length
      (true, { t with
        size := t.size + e.body.length
        items := t.items ++ [(key, e)] }) :=
  if_neg fun hrefused => not_fits_iff.mpr hrefused h

/-- The limits do not move. -/
theorem capacity_insert (s : Store) (key : String) (e : Entry) :
    (s.insert choose now key e).2.capacity = s.capacity := by
  by_cases h : s.Fits e
  · rw [insert_of_fits choose now h]
    exact ((shrinks_remove s key).trans (shrinks_makeRoom _ choose now _)).capacity
  · rw [insert_of_not_fits choose now h]

theorem maxItemSize_insert (s : Store) (key : String) (e : Entry) :
    (s.insert choose now key e).2.maxItemSize = s.maxItemSize := by
  by_cases h : s.Fits e
  · rw [insert_of_fits choose now h]
    exact ((shrinks_remove s key).trans (shrinks_makeRoom _ choose now _)).maxItemSize
  · rw [insert_of_not_fits choose now h]

/-- **What an insertion leaves**: the new entry, and entries under other
keys that were there before. -/
theorem mem_insert_of_fits (h : s.Fits e) {i : Item}
    (hi : i ∈ (s.insert choose now key e).2.items) :
    i = (key, e) ∨ i ∈ s.items ∧ i.1 ≠ key := by
  rw [insert_of_fits choose now h] at hi
  rcases List.mem_append.mp hi with hold | hnew
  · have hmem := (shrinks_makeRoom (s.remove key) choose now e.body.length).mem hold
    rw [items_remove, List.mem_filter, decide_eq_true_eq] at hmem
    exact Or.inr hmem
  · exact Or.inl (List.mem_singleton.mp hnew)

/-- An insertion brings nothing but the new entry. -/
theorem mem_insert {i : Item} (hi : i ∈ (s.insert choose now key e).2.items) :
    i = (key, e) ∨ i ∈ s.items := by
  by_cases h : s.Fits e
  · exact (mem_insert_of_fits choose now h hi).imp id And.left
  · rw [insert_of_not_fits choose now h] at hi
    exact Or.inr hi

/-- **What was inserted is found.** -/
theorem find?_insert_of_fits (h : s.Fits e) :
    (s.insert choose now key e).2.find? key = some e := by
  have hnone : ((s.remove key).makeRoom choose now e.body.length).find? key = none :=
    (shrinks_makeRoom _ choose now _).find?_eq_none (find?_remove s key)
  rw [insert_of_fits choose now h]
  unfold find?
  rw [find?_eq_none_iff] at hnone
  rw [List.find?_append, List.find?_eq_none.mpr (by simpa using hnone)]
  simp

end Insertion

end Store

end Gatehouse.Cache
