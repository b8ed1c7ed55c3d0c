import Gatehouse.Cache.Store

/-!
# The store among concurrent calls

`Store` tells what an operation does when it has the store to itself. Here
calls take turns: the entries are one shared map, the bytes in use are one
shared counter, and each call is cut into steps of which every single one
touches the map once or the counter once. Between two steps of a call,
other calls may make any number of theirs.

A call is its own program counter: `Call` says what it does next and what
it remembers until then. The counter is an integer, so that a subtraction
that comes too early would be seen below zero.
-/

namespace Gatehouse.Cache

/-- **A store that calls share.** -/
structure SharedStore where
  capacity : Nat
  maxItemSize : Nat
  /-- The counter of the bytes in use. -/
  size : Int
  /-- The entries by key. -/
  items : List Item
deriving DecidableEq, Inhabited

/-- An entry on its way into the store. -/
structure Insertion where
  key : String
  entry : Entry
  /-- When room is made for it. -/
  now : Instant
deriving DecidableEq, Inhabited

/-- What a call does after it has dropped an entry. -/
inductive Next where
  /-- It ends. -/
  | finish
  /-- It goes on to see whether an entry fits. -/
  | measure (job : Insertion)
  /-- It goes on to see whether enough room is made. -/
  | remeasure (job : Insertion)
deriving DecidableEq, Inhabited

/-- **A call at work**, by its next step. -/
inductive Call where
  /-- Nothing is left to do. -/
  | finished
  /-- Looks a key up in the map. -/
  | looking (key : String) (now : Instant)
  /-- Takes a key out of the map. -/
  | removing (key : String) (next : Next)
  /-- Subtracts the bytes of an entry that left the map. -/
  | subtracting (bytes : Nat) (next : Next)
  /-- Reads the counter, to see whether an entry fits. -/
  | measuring (job : Insertion)
  /-- Drops all stale entries. -/
  | purging (job : Insertion)
  /-- Reads the counter, to see whether enough room is made. -/
  | remeasuring (job : Insertion)
  /-- Picks an entry to give up. -/
  | choosing (job : Insertion)
  /-- Adds the bytes of the new entry. -/
  | adding (job : Insertion)
  /-- Puts the new entry into the map. -/
  | putting (job : Insertion)
deriving DecidableEq, Inhabited

/-- The step that follows. -/
def Next.call : Next → Call
  | .finish => .finished
  | .measure job => .measuring job
  | .remeasure job => .remeasuring job

namespace SharedStore

/-- A store that calls may share, with the contents of a store. -/
def ofStore (s : Store) : SharedStore := ⟨s.capacity, s.maxItemSize, s.size, s.items⟩

/-- The entry under a key. -/
def find? (s : SharedStore) (key : String) : Option Entry :=
  (s.items.find? (·.1 = key)).map (·.2)

/-- The entries without a key. -/
def without (s : SharedStore) (key : String) : List Item :=
  s.items.filter (·.1 ≠ key)

/-- Goes on after an entry has left the map, or when none was there. -/
def dropped (e : Option Entry) (next : Next) : Call :=
  match e with
  | some e => .subtracting e.body.length next
  | none => next.call

/-- **One step of a call.** `pick` is only looked at where an entry to give
up is chosen. -/
def step (s : SharedStore) (pick : Nat) : Call → SharedStore × Call
  | .finished => (s, .finished)
  | .looking key now =>
    match s.find? key with
    | none => (s, .finished)
    | some e => if e.isFresh now then (s, .finished) else (s, .removing key .finish)
  | .removing key next =>
    ({ s with items := s.without key }, dropped (s.find? key) next)
  | .subtracting bytes next => ({ s with size := s.size - bytes }, next.call)
  | .measuring job =>
    if s.size + job.entry.body.length ≤ s.capacity then (s, .adding job)
    else (s, .purging job)
  | .purging job =>
    ({ s with
      size := s.size - Store.bytes (s.items.filter fun i => !i.2.isFresh job.now)
      items := s.items.filter fun i => i.2.isFresh job.now }, .remeasuring job)
  | .remeasuring job =>
    if s.size + job.entry.body.length ≤ s.capacity then (s, .adding job)
    else (s, .choosing job)
  | .choosing job =>
    match Store.victim? (fun _ => pick) s.items with
    | none => (s, .adding job)
    | some i => (s, .removing i.1 (.remeasure job))
  | .adding job => ({ s with size := s.size + job.entry.body.length }, .putting job)
  | .putting job =>
    ({ s with items := s.without job.key ++ [(job.key, job.entry)] },
      dropped (s.find? job.key) .finish)

/-! ## Beginnings -/

/-- The beginning of a lookup. -/
def startGet (key : String) (now : Instant) : Call := .looking key now

/-- The beginning of a removal. -/
def startRemove (key : String) : Call := .removing key .finish

/-- The beginning of an insertion. An entry that is too large is given up
before anything is touched. -/
def startInsert (s : SharedStore) (job : Insertion) : Call :=
  if job.entry.body.length > s.maxItemSize || job.entry.body.length > s.capacity then
    .finished
  else .removing job.key (.measure job)

end SharedStore

/-- What somebody asks of a shared store. -/
inductive Demand where
  | get (key : String) (now : Instant)
  | insert (job : Insertion)
  | remove (key : String)
deriving DecidableEq, Inhabited

/-- **A shared store with the calls at work on it.** -/
structure Crowd where
  store : SharedStore
  calls : List Call
deriving DecidableEq, Inhabited

/-- Something that happens to a crowd. -/
inductive Turn where
  /-- A call begins. -/
  | start (demand : Demand)
  /-- A call makes its next step. -/
  | advance (who : Nat) (pick : Nat)
deriving DecidableEq, Inhabited

namespace Crowd

/-- The call that answers a demand. -/
def callOf (s : SharedStore) : Demand → Call
  | .get key now => SharedStore.startGet key now
  | .insert job => s.startInsert job
  | .remove key => SharedStore.startRemove key

/-- What a turn does. A turn of somebody who is not there does nothing. -/
def turn (c : Crowd) : Turn → Crowd
  | .start demand => { c with calls := c.calls ++ [callOf c.store demand] }
  | .advance who pick =>
    match c.calls[who]? with
    | none => c
    | some call =>
      let (store, call) := c.store.step pick call
      ⟨store, c.calls.set who call⟩

/-- **What a sequence of turns does.** -/
def run (c : Crowd) (turns : List Turn) : Crowd := turns.foldl turn c

/-- Whether no call is at work. -/
def isQuiet (c : Crowd) : Bool := c.calls.all (· = .finished)

end Crowd

end Gatehouse.Cache
