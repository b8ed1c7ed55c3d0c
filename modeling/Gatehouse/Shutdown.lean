/-!
# Shutdown notices

Whoever holds a handle can announce a shutdown to everyone who listens at
that moment. The channel keeps only the newest notice: a receiver that
missed earlier ones is told how many before it gets the newest. It is
described by the number of notices sent so far and, for each receiver, how
many of them it is done with, so that the notices a receiver still has to
hear about are the difference of two counts.
-/

namespace Gatehouse

/-- What a receiver finds when it looks for a notice. -/
inductive Notice where
  /-- A notice. -/
  | received
  /-- Nothing new, but more may come. -/
  | empty
  /-- Nothing new, and no handle is left to announce anything. -/
  | closed
  /-- So many notices were missed; the newest one comes next. -/
  | lagged (missed : Nat)
deriving DecidableEq, Inhabited

/-- The channel behind all handles and receivers. -/
structure Shutdown where
  /-- The number of notices sent. -/
  sent : Nat
  /-- For each handle that was ever made, whether it still exists. -/
  handles : List Bool
  /-- For each receiver that was ever made, how many notices it is done
  with, or nothing once it is gone. -/
  receivers : List (Option Nat)
deriving DecidableEq, Inhabited

namespace Shutdown

/-- A channel with one handle and no receivers. -/
def new : Shutdown := ⟨0, [true], []⟩

/-- Whether some handle still exists. -/
def isOpen (s : Shutdown) : Bool := s.handles.any id

/-- The number of receivers that listen. -/
def listeners (s : Shutdown) : Nat := (s.receivers.filter Option.isSome).length

/-- Makes a receiver that hears of every later notice; the answer is its
number. -/
def subscribe (s : Shutdown) : Nat × Shutdown :=
  (s.receivers.length, { s with receivers := s.receivers ++ [some s.sent] })

/-- **Announces a shutdown** to the present listeners; the answer is their
number. Without listeners nothing is sent. -/
def trigger (s : Shutdown) : Nat × Shutdown :=
  (s.listeners, if s.listeners = 0 then s else { s with sent := s.sent + 1 })

/-- Makes another handle; the answer is its number. -/
def clone (s : Shutdown) : Nat × Shutdown :=
  (s.handles.length, { s with handles := s.handles ++ [true] })

/-- Gives a handle up. -/
def dropHandle (s : Shutdown) (h : Nat) : Shutdown :=
  { s with handles := s.handles.set h false }

/-- Gives a receiver up. -/
def drop (s : Shutdown) (i : Nat) : Shutdown :=
  { s with receivers := s.receivers.set i none }

/-- The number of notices that a receiver has still to hear about. -/
def pending (s : Shutdown) (i : Nat) : Nat :=
  match s.receivers[i]? with
  | some (some seen) => s.sent - seen
  | _ => 0

/-- **Looks for a notice**, without waiting. -/
def recv (s : Shutdown) (i : Nat) : Notice × Shutdown :=
  let done (n : Nat) : Shutdown :=
    { s with receivers := s.receivers.set i (some n) }
  match s.pending i with
  | 0 => (if s.isOpen then .empty else .closed, s)
  | 1 => (.received, done s.sent)
  | n + 2 => (.lagged (n + 1), done (s.sent - 1))

end Shutdown

end Gatehouse
