import Mathlib
import Gatehouse.Proofs.Cache.Eviction

/-!
# What a lookup knows of the past

A store gives entries up to make room, and nobody is told. So what it answers
is not determined by what was asked of it before, and still it is bound to
that from two sides. It never answers with anything but the entry that was
stored last under the key, if that was not removed since and has not expired.
And it may forget such an entry only for want of room: as long as every later
insertion had room beside the fresh entries, the entry is there.

To say so, a run is taken apart into its moments (`Moment`), each a demand with
the store that it meets. What one moment does to one entry is told twice, from
either end: where an entry that is there has come from (`Moment.mem_next`), and
when an entry that was there is kept (`Moment.mem_next_of_leaves`).
-/

namespace Gatehouse.Cache

/-- The insertion that a demand is. -/
def Demand.job? : Demand → Option Insertion
  | .insert job => some job
  | _ => none

/-- When something is asked for. For a removal it does not matter. -/
def Demand.time? : Demand → Option Instant
  | .get _ now => some now
  | .insert job => some job.now
  | .remove _ => none

/-- **A moment of a run**: a demand, with the store that it meets. -/
structure Moment where
  store : Store
  choose : Chooser
  demand : Demand

namespace Moment

/-- The store that a moment leaves. -/
def next (m : Moment) : Store := m.store.perform m.choose m.demand

/-- **The insertion that succeeds** at a moment, if one does. -/
def stored? (m : Moment) : Option Insertion :=
  m.demand.job?.filter fun job => (m.store.insert m.choose job.now job.key job.entry).1

/-- **A moment that leaves a key alone**: the key is not removed, and nothing
is stored under it. -/
def Leaves (m : Moment) (key : String) : Prop :=
  m.demand ≠ .remove key ∧ ∀ job ∈ m.stored?, job.key ≠ key

/-- **A moment with room enough**: what is stored fits beside the fresh entries
under other keys. So it does if it fits beside all that is stored
(`Moment.hasRoom_of_size`). -/
def HasRoom (m : Moment) : Prop :=
  ∀ job ∈ m.stored?, Store.bytes (m.store.freshOthers job.key job.now)
    + job.entry.body.length ≤ m.store.capacity

instance (m : Moment) (key : String) : Decidable (m.Leaves key) :=
  inferInstanceAs (Decidable (_ ∧ _))

instance (m : Moment) : Decidable m.HasRoom :=
  inferInstanceAs (Decidable (∀ job ∈ m.stored?, _))

end Moment

namespace Store

variable {s : Store} {key : String} {e : Entry}

/-- **The moments of a run**, one for each demand. -/
def moments (s : Store) : List (Chooser × Demand) → List Moment
  | [] => []
  | d :: rest => ⟨s, d.1, d.2⟩ :: (s.perform d.1 d.2).moments rest

/-- **What was stored last under a key**: at some moment of the run the entry
was stored under it, and the moments `later`, which are all since, leave the key
alone. -/
def LastStored (s : Store) (past : List (Chooser × Demand)) (key : String) (e : Entry)
    (later : List Moment) : Prop :=
  ∃ earlier m now, s.moments past = earlier ++ m :: later
    ∧ m.stored? = some ⟨key, e, now⟩ ∧ ∀ m' ∈ later, m'.Leaves key

/-! ## Books in order -/

/-- Where keys are distinct, what is stored is what is found. -/
theorem InOrder.find?_eq_some_iff (h : s.InOrder) :
    s.find? key = some e ↔ (key, e) ∈ s.items := by
  refine ⟨mem_of_find?, fun hmem => ?_⟩
  cases hfind : s.find? key with
  | none => exact absurd rfl (find?_eq_none_iff.mp hfind (key, e) hmem)
  | some e' =>
    have hsame := List.inj_on_of_nodup_map h.keys (mem_of_find? hfind) hmem rfl
    rw [(Prod.mk.inj hsame).2]

/-- A removal takes the one entry that is found. -/
theorem InOrder.remove_of_find? (h : s.InOrder) (hfind : s.find? key = some e) :
    s.remove key = { s with
      size := s.size - e.body.length
      items := s.items.filter (· ≠ (key, e)) } := by
  rw [remove_of_eq_some hfind]
  congr 1
  refine List.filter_congr fun i hi => decide_eq_decide.mpr (not_congr ?_)
  constructor
  · intro hkey
    exact List.inj_on_of_nodup_map h.keys hi (mem_of_find? hfind) hkey
  · rintro rfl
    rfl

/-- The entries under other keys are untouched by a removal. -/
theorem mem_remove_of_ne {i : Item} (hi : i ∈ s.items) (hne : i.1 ≠ key) :
    i ∈ (s.remove key).items := by
  rw [items_remove]
  exact List.mem_filter.mpr ⟨hi, decide_eq_true hne⟩

/-- A lookup that answers nothing but finds something drops what it finds. -/
theorem get_of_stale {now : Instant} (hfind : s.find? key = some e)
    (hstale : e.isFresh now = false) : s.get now key = (none, s.remove key) := by
  unfold get
  rw [hfind]
  exact if_neg (Bool.eq_false_iff.mp hstale)

/-- Where nothing is found, nothing changes. -/
theorem get_of_find?_eq_none {now : Instant} (hfind : s.find? key = none) :
    s.get now key = (none, s) := by
  unfold get
  rw [hfind]

/-- An insertion succeeds exactly if the store admits the entry. -/
theorem insert_fst_iff (choose : Chooser) (now : Instant) :
    (s.insert choose now key e).1 = true ↔ s.Fits e := by
  by_cases hfits : s.Fits e
  · rw [insert_of_fits choose now hfits]
    exact iff_of_true rfl hfits
  · rw [insert_of_not_fits choose now hfits]
    exact iff_of_false Bool.false_ne_true hfits

end Store

/-! ## One moment -/

namespace Moment

open Store

variable {m : Moment} {key : String} {e : Entry}

/-- What succeeds is an insertion that the store admits. -/
theorem stored?_eq_some_iff {job : Insertion} :
    m.stored? = some job ↔ m.demand = .insert job ∧ m.store.Fits job.entry := by
  unfold stored? Demand.job?
  rw [Option.filter_eq_some_iff, insert_fst_iff]
  refine and_congr_left fun _ => ?_
  cases m.demand <;> simp

/-- What fits beside the bytes in use has room. -/
theorem hasRoom_of_size (h : m.store.InOrder)
    (hfits : ∀ job ∈ m.stored?,
      m.store.size + job.entry.body.length ≤ m.store.capacity) : m.HasRoom := by
  intro job hjob
  have hfresh : bytes (m.store.freshOthers job.key job.now) ≤ bytes m.store.items :=
    bytes_le_of_sublist (List.filter_sublist.trans List.filter_sublist)
  have hroom := hfits job hjob
  rw [h.size_eq] at hroom
  exact (Nat.add_le_add_right hfresh _).trans hroom

theorem next_of_insert {job : Insertion} (hdemand : m.demand = .insert job) :
    m.next = (m.store.insert m.choose job.now job.key job.entry).2 := by
  unfold next
  rw [hdemand]
  rfl

/-- **Where an entry has come from**: it was stored just now, or it was there,
and its key was left alone. -/
theorem mem_next {i : Item} (hi : i ∈ m.next.items) :
    (∃ now, m.stored? = some ⟨i.1, i.2, now⟩) ∨ i ∈ m.store.items ∧ m.Leaves i.1 := by
  have hnothing (hdemand : ∀ job, m.demand ≠ .insert job) : ∀ job ∈ m.stored?, job.key ≠ i.1 :=
    fun job hjob => absurd (stored?_eq_some_iff.mp hjob).1 (hdemand job)
  cases hdemand : m.demand with
  | get key now =>
    have hnext : m.next = (m.store.get now key).2 := by unfold next; rw [hdemand]; rfl
    rw [hnext] at hi
    exact .inr ⟨(shrinks_get m.store now key).mem hi, by simp [hdemand],
      hnothing (by simp [hdemand])⟩
  | remove key =>
    have hnext : m.next = m.store.remove key := by unfold next; rw [hdemand]; rfl
    rw [hnext, items_remove, List.mem_filter, decide_eq_true_eq] at hi
    refine .inr ⟨hi.1, ?_, hnothing (by simp [hdemand])⟩
    rw [hdemand]
    rintro ⟨⟩
    exact hi.2 rfl
  | insert job =>
    rw [next_of_insert hdemand] at hi
    by_cases hfits : m.store.Fits job.entry
    · have hstored : m.stored? = some job := stored?_eq_some_iff.mpr ⟨hdemand, hfits⟩
      rcases mem_insert_of_fits m.choose job.now hfits hi with rfl | ⟨hold, hne⟩
      · exact .inl ⟨job.now, hstored⟩
      · refine .inr ⟨hold, by simp [hdemand], fun job' hjob' => ?_⟩
        rw [hstored] at hjob'
        obtain rfl := Option.some.inj hjob'
        exact hne.symm
    · rw [insert_of_not_fits m.choose job.now hfits] at hi
      refine .inr ⟨hi, by simp [hdemand], fun job' hjob' => ?_⟩
      obtain ⟨hsame, hfits'⟩ := stored?_eq_some_iff.mp hjob'
      rw [hdemand] at hsame
      cases hsame
      exact absurd hfits' hfits

/-- **When an entry is kept**: its key is left alone, it has not expired, and
there is room enough. -/
theorem mem_next_of_leaves (h : m.store.InOrder) (hmem : (key, e) ∈ m.store.items)
    (hleaves : m.Leaves key) (hroom : m.HasRoom)
    (hfresh : ∀ t, m.demand.time? = some t → e.isFresh t = true) :
    (key, e) ∈ m.next.items := by
  cases hdemand : m.demand with
  | get k now =>
    have hnext : m.next = (m.store.get now k).2 := by unfold next; rw [hdemand]; rfl
    have hnow : e.isFresh now = true := hfresh now (by rw [hdemand]; rfl)
    rw [hnext]
    cases hfind : m.store.find? k with
    | none =>
      rw [get_of_find?_eq_none hfind]
      exact hmem
    | some e' =>
      by_cases hfresh' : e'.isFresh now = true
      · rw [get_of_eq_some (get_eq_some_iff.mpr ⟨hfind, hfresh'⟩)]
        exact hmem
      · -- what is dropped is stale, and the entry is not
        have hne : key ≠ k := by
          rintro rfl
          rw [h.find?_eq_some_iff.mpr hmem] at hfind
          cases hfind
          exact hfresh' hnow
        rw [get_of_stale hfind (Bool.eq_false_iff.mpr hfresh')]
        exact mem_remove_of_ne hmem hne
  | remove k =>
    have hnext : m.next = m.store.remove k := by unfold next; rw [hdemand]; rfl
    have hne : key ≠ k := by
      rintro rfl
      exact hleaves.1 hdemand
    rw [hnext]
    exact mem_remove_of_ne hmem hne
  | insert job =>
    rw [next_of_insert hdemand]
    by_cases hfits : m.store.Fits job.entry
    · have hstored : m.stored? = some job := stored?_eq_some_iff.mpr ⟨hdemand, hfits⟩
      have hnow : e.isFresh job.now = true := hfresh job.now (by rw [hdemand]; rfl)
      have hother : (key, e) ∈ m.store.others job.key :=
        List.mem_filter.mpr ⟨hmem, decide_eq_true (hleaves.2 job hstored).symm⟩
      have hfreshOther : (key, e) ∈ m.store.freshOthers job.key job.now :=
        List.mem_filter.mpr ⟨hother, hnow⟩
      have hkept : (key, e)
          ∈ (m.store.insert m.choose job.now job.key job.entry).2.others job.key := by
        by_cases hall : bytes (m.store.others job.key) + job.entry.body.length
            ≤ m.store.capacity
        · rw [h.others_insert_of_room m.choose job.now hfits hall]
          exact hother
        · rw [h.others_insert_of_freshRoom m.choose job.now hfits (Nat.not_le.mp hall)
            (hroom job hstored)]
          exact hfreshOther
      exact (List.mem_filter.mp hkept).1
    · rw [insert_of_not_fits m.choose job.now hfits]
      exact hmem

end Moment

/-! ## Runs -/

namespace Store

variable {s : Store} {key : String} {e : Entry}

/-- **Where an entry of a run has come from**: it was there in the beginning and
its key was left alone ever since, or it was stored last under its key. -/
theorem mem_run {past : List (Chooser × Demand)} {i : Item} (hi : i ∈ (s.run past).items) :
    (i ∈ s.items ∧ ∀ m ∈ s.moments past, m.Leaves i.1)
      ∨ ∃ later, s.LastStored past i.1 i.2 later := by
  induction past generalizing s with
  | nil => exact .inl ⟨hi, nofun⟩
  | cons d rest ih =>
    rcases ih hi with ⟨hthere, hleaves⟩ | ⟨later, earlier, m, now, hmoments, hlast⟩
    · rcases Moment.mem_next (m := ⟨s, d.1, d.2⟩) hthere with ⟨now, hstored⟩ | ⟨hold, hleft⟩
      · exact .inr ⟨_, [], ⟨s, d.1, d.2⟩, now, rfl, hstored, hleaves⟩
      · exact .inl ⟨hold, List.forall_mem_cons.mpr ⟨hleft, hleaves⟩⟩
    · refine .inr ⟨later, ⟨s, d.1, d.2⟩ :: earlier, m, now, ?_, hlast⟩
      rw [moments, hmoments]
      rfl

/-- **When an entry is kept over a run.** -/
theorem InOrder.mem_run_of_leaves (h : s.InOrder) {rest : List (Chooser × Demand)}
    (hmem : (key, e) ∈ s.items) (hleaves : ∀ m ∈ s.moments rest, m.Leaves key)
    (hroom : ∀ m ∈ s.moments rest, m.HasRoom)
    (hfresh : ∀ d ∈ rest, ∀ t, d.2.time? = some t → e.isFresh t = true) :
    (key, e) ∈ (s.run rest).items := by
  induction rest generalizing s with
  | nil => exact hmem
  | cons d rest ih =>
    obtain ⟨hleft, hleaves⟩ := List.forall_mem_cons.mp hleaves
    obtain ⟨hroomy, hroom⟩ := List.forall_mem_cons.mp hroom
    obtain ⟨hnow, hfresh⟩ := List.forall_mem_cons.mp hfresh
    exact ih (h.perform d.1 d.2)
      (Moment.mem_next_of_leaves (m := ⟨s, d.1, d.2⟩) h hmem hleft hroomy hnow)
      hleaves hroom hfresh

/-- Every moment of a run meets a store with its books in order. -/
theorem InOrder.store_of_mem_moments (h : s.InOrder) {past : List (Chooser × Demand)}
    {m : Moment} (hm : m ∈ s.moments past) : m.store.InOrder := by
  induction past generalizing s with
  | nil => cases hm
  | cons d rest ih =>
    rcases List.mem_cons.mp hm with rfl | hm
    · exact h
    · exact ih (h.perform d.1 d.2) hm

/-- A moment of a run cuts it in two: what is asked after it is asked of the
store that it leaves. -/
theorem InOrder.run_of_moments (h : s.InOrder) {past : List (Chooser × Demand)}
    {earlier later : List Moment} {m : Moment}
    (hmoments : s.moments past = earlier ++ m :: later) :
    ∃ rest, (∀ d ∈ rest, d ∈ past) ∧ later = m.next.moments rest
      ∧ s.run past = m.next.run rest ∧ m.store.InOrder := by
  induction earlier generalizing s past with
  | nil =>
    cases past with
    | nil => cases hmoments
    | cons d rest =>
      obtain ⟨rfl, rfl⟩ := List.cons.inj hmoments
      exact ⟨rest, fun _ => List.mem_cons_of_mem d, rfl, rfl, h⟩
  | cons m' earlier ih =>
    cases past with
    | nil => cases hmoments
    | cons d past =>
      obtain ⟨-, hmoments⟩ := List.cons.inj hmoments
      obtain ⟨rest, hrest, hlater, hrun, hm⟩ := ih (h.perform d.1 d.2) hmoments
      exact ⟨rest, fun d' hd' => List.mem_cons_of_mem d (hrest d' hd'), hlater, hrun, hm⟩

/-- **What a lookup knows of the past.** Take an empty store of any size, anything
that was asked of it, with any choice of what to give up, and a lookup at a time
before which all of that was asked.

If the lookup answers, then with an entry that has not expired, and that was
stored last under its key: since then the key was neither removed nor stored
under. Conversely, such an entry is the answer if all that was stored under other
keys since then had room enough, be it beside all that was stored or only beside
what was fresh. A lookup that answers changes nothing. One that
finds an expired entry drops that entry, with its bytes, and nothing else. -/
theorem run_get_lastStored (capacity maxItemSize : Nat) (past : List (Chooser × Demand))
    (now : Instant) (key : String)
    (htimes : ∀ d ∈ past, ∀ t, d.2.time? = some t → t.nanos ≤ now.nanos) :
    let start := Store.empty capacity maxItemSize
    let s := start.run past
    (∀ e, (s.get now key).1 = some e →
        now.nanos < e.expires.nanos ∧ ∃ later, start.LastStored past key e later)
      ∧ (∀ e later, start.LastStored past key e later → now.nanos < e.expires.nanos →
        (∀ m ∈ later, m.HasRoom ∨ ∀ job ∈ m.stored?,
          m.store.size + job.entry.body.length ≤ m.store.capacity) →
        (s.get now key).1 = some e)
      ∧ (∀ e, (s.get now key).1 = some e → (s.get now key).2 = s)
      ∧ ∀ e, s.find? key = some e → e.expires.nanos ≤ now.nanos →
        e.body.length ≤ s.size
          ∧ s.get now key = (none, { s with
            size := s.size - e.body.length
            items := s.items.filter (· ≠ (key, e)) }) := by
  intro start s
  have hstart : start.InOrder := .empty capacity maxItemSize
  have hbooks : s.InOrder := hstart.run past
  refine ⟨fun e hget => ?_, fun e later hlast hfresh hroom => ?_, fun e hget => ?_,
    fun e hfind hstale => ?_⟩
  · obtain ⟨hfind, hfresh⟩ := get_eq_some_iff.mp hget
    refine ⟨of_decide_eq_true hfresh, ?_⟩
    rcases mem_run (mem_of_find? hfind) with ⟨hthere, -⟩ | hlast
    · cases hthere
    · exact hlast
  · obtain ⟨earlier, m, stored, hmoments, hstored, hleaves⟩ := hlast
    have hroom : ∀ m ∈ later, m.HasRoom := by
      intro m' hm'
      have hmoment : m' ∈ start.moments past := by
        rw [hmoments]
        exact List.mem_append_right _ (List.mem_cons_of_mem m hm')
      exact (hroom m' hm').elim id
        (Moment.hasRoom_of_size (hstart.store_of_mem_moments hmoment))
    obtain ⟨hdemand, hfits⟩ := Moment.stored?_eq_some_iff.mp hstored
    obtain ⟨rest, hrest, rfl, hrun, hm⟩ := hstart.run_of_moments hmoments
    have hnext : m.next.InOrder := hm.perform m.choose m.demand
    have hfound : m.next.find? key = some e := by
      rw [Moment.next_of_insert hdemand]
      exact find?_insert_of_fits m.choose stored hfits
    have hkept : (key, e) ∈ (m.next.run rest).items := by
      refine hnext.mem_run_of_leaves (mem_of_find? hfound) hleaves hroom fun d hd t ht => ?_
      exact decide_eq_true ((htimes d (hrest d hd) t ht).trans_lt hfresh)
    rw [← hrun] at hkept
    exact get_eq_some_iff.mpr ⟨hbooks.find?_eq_some_iff.mpr hkept, decide_eq_true hfresh⟩
  · exact congrArg Prod.snd (get_of_eq_some hget)
  · have hnotFresh : e.isFresh now = false := decide_eq_false (Nat.not_lt.mpr hstale)
    refine ⟨hbooks.length_le_size hfind, ?_⟩
    rw [get_of_stale hfind hnotFresh, hbooks.remove_of_find? hfind]

/-- A store of ten bytes has met four demands: a body of six bytes under `a`, one
of three in its place, seven bytes under `b`, which have room beside it, and a
lookup of `b` when that has expired. Then `a` is still found, and `b` is not. -/
theorem run_get_lastStored_replaced :
    let past : List (Chooser × Demand) :=
      [(fun _ => 0, .insert (.ofLength "a" 6 60)), (fun _ => 0, .insert (.ofLength "a" 3 60)),
        (fun _ => 0, .insert (.ofLength "b" 7 5)), (fun _ => 0, .get "b" ⟨5000000000⟩)]
    let now : Instant := ⟨8000000000⟩
    let s := (Store.empty 10 10).run past
    (∀ d ∈ past, ∀ t, d.2.time? = some t → t.nanos ≤ now.nanos)
      ∧ (s.get now "a").1 = some (Insertion.ofLength "a" 3 60).entry
      ∧ (s.get now "b").1 = none := by
  intro past now s
  have htimes : ∀ d ∈ past, ∀ t, d.2.time? = some t → t.nanos ≤ now.nanos := by
    decide
  obtain ⟨-, hconverse, -⟩ := run_get_lastStored 10 10 past now "a" htimes
  have hlast : (Store.empty 10 10).LastStored past "a" (Insertion.ofLength "a" 3 60).entry
      (((Store.empty 10 10).moments past).drop 2) :=
    ⟨((Store.empty 10 10).moments past).take 1, _, ⟨0⟩, rfl, by decide +kernel,
      by decide +kernel⟩
  have hroom : ∀ m ∈ ((Store.empty 10 10).moments past).drop 2, m.HasRoom := by
    decide +kernel
  exact ⟨htimes, hconverse _ _ hlast (by decide) fun m hm => Or.inl (hroom m hm),
    by decide +kernel⟩

end Store

end Gatehouse.Cache
