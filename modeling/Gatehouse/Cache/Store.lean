import Gatehouse.Cache.Instant
import Gatehouse.Http.Message

/-!
# The store of responses

A store holds complete responses under text keys, at most one per key, and
keeps the bytes of all stored bodies within a capacity. The bytes in use
are counted in `size`, which every operation adjusts along with the
entries rather than summing them up again.

Entries leave in three ways: a reader that meets a stale entry drops it,
an insertion under the same key replaces it, and an insertion that needs
room first drops all stale entries and then, one at a time, any others.
Which others is left open: the operations take a `Chooser`, and nothing
about the store depends on what it chooses.
-/

namespace Gatehouse.Cache

open Http

/-- A stored response. -/
structure Entry where
  status : Status
  headers : Headers
  body : Bytes
  /-- The instant from which the entry is stale. -/
  expires : Instant
deriving DecidableEq, Inhabited

namespace Entry

/-- Whether the entry may still be served. -/
def isFresh (e : Entry) (now : Instant) : Bool := now.isBefore e.expires

/-- The response that was stored. -/
def toResponse (e : Entry) : Response :=
  ⟨e.status, e.headers, Body.ofBytes e.body⟩

end Entry

/-- A stored response with its key. -/
abbrev Item := String × Entry

/-- How to pick the next entry to give up: a position, taken modulo the
number of entries. -/
abbrev Chooser := List Item → Nat

/-- **A store of responses.** -/
structure Store where
  /-- The most bytes that stored bodies may have together. -/
  capacity : Nat
  /-- The most bytes that one stored body may have. -/
  maxItemSize : Nat
  /-- The bytes in use. -/
  size : Nat
  /-- The entries by key. -/
  items : List Item
deriving DecidableEq, Inhabited

namespace Store

/-- A store without entries. -/
def empty (capacity maxItemSize : Nat) : Store := ⟨capacity, maxItemSize, 0, []⟩

/-- The number of entries. -/
def count (s : Store) : Nat := s.items.length

/-- Whether there are no entries. -/
def isEmpty (s : Store) : Bool := s.items.isEmpty

/-- The bytes of the bodies of some entries. -/
def bytes : List Item → Nat
  | [] => 0
  | i :: rest => i.2.body.length + bytes rest

/-- The entry under a key, fresh or stale. -/
def find? (s : Store) (key : String) : Option Entry :=
  (s.items.find? (·.1 = key)).map (·.2)

/-- Drops the entry under a key. -/
def remove (s : Store) (key : String) : Store :=
  match s.find? key with
  | none => s
  | some e =>
    { s with
      size := s.size - e.body.length
      items := s.items.filter (·.1 ≠ key) }

/-- **Looks a key up.** A fresh entry is the answer; a stale one is
dropped. -/
def get (s : Store) (now : Instant) (key : String) : Option Entry × Store :=
  match s.find? key with
  | none => (none, s)
  | some e => if e.isFresh now then (some e, s) else (none, s.remove key)

/-- Drops all stale entries. -/
def purge (s : Store) (now : Instant) : Store :=
  { s with
    size := s.size - bytes (s.items.filter fun i => !i.2.isFresh now)
    items := s.items.filter fun i => i.2.isFresh now }

/-- Removing a stored key leaves fewer entries. -/
theorem length_remove_lt {s : Store} {i : Item} (h : i ∈ s.items) :
    (s.remove i.1).items.length < s.items.length := by
  unfold remove
  cases hf : s.find? i.1 with
  | none =>
    simp only [find?, Option.map_eq_none_iff, List.find?_eq_none] at hf
    exact absurd (by simp) (hf i h)
  | some e =>
    simp only
    have hlt : (s.items.filter (·.1 ≠ i.1)).length < s.items.length := by
      have := List.length_filter_lt_length_iff_exists
        (p := fun j : Item => decide (j.1 ≠ i.1)) (l := s.items)
      exact this.2 ⟨i, h, by simp⟩
    simpa using hlt

/-- The entry to give up next, if there is one. -/
def victim? (choose : Chooser) (items : List Item) : Option Item :=
  items[choose items % items.length]?

/-- Drops chosen entries until `needed` more bytes fit, or nothing is
left. -/
def evict (choose : Chooser) (needed : Nat) (s : Store) : Store :=
  if s.size + needed ≤ s.capacity then s
  else match h : victim? choose s.items with
    | none => s
    | some i =>
      have : (s.remove i.1).items.length < s.items.length :=
        length_remove_lt (List.mem_of_getElem? h)
      evict choose needed (s.remove i.1)
termination_by s.items.length

/-- **Makes room** for `needed` more bytes: nothing is touched while they
fit, stale entries go first, chosen ones after them. -/
def makeRoom (s : Store) (choose : Chooser) (now : Instant) (needed : Nat) :
    Store :=
  if s.size + needed ≤ s.capacity then s
  else evict choose needed (s.purge now)

/-- **Stores an entry**, unless its body is larger than the store admits,
in which case nothing changes. The answer tells whether it was stored. -/
def insert (s : Store) (choose : Chooser) (now : Instant) (key : String)
    (e : Entry) : Bool × Store :=
  if e.body.length > s.maxItemSize || e.body.length > s.capacity then (false, s)
  else
    let s := (s.remove key).makeRoom choose now e.body.length
    (true, { s with
      size := s.size + e.body.length
      items := s.items ++ [(key, e)] })

/-- The store as messages show it. -/
def toText (s : Store) : String :=
  "ResponseCache \x7b entries: " ++ toString s.count ++ ", size: "
    ++ toString s.size ++ ", capacity: " ++ toString s.capacity ++ " \x7d"

end Store

end Gatehouse.Cache
