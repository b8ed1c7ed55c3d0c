/-!
# Values in a database file

A database file keeps its data as self-describing values: a control byte
tells the kind and the size, and the payload follows. A value may also be a
pointer to another place of the same section, so that records share what
they have in common.

Reading follows pointers, and a pointer can lead back to where it came
from. The depth of nesting is therefore bounded: in a section without such
a circle, each step down stands at another place, so the number of places
is bound enough.
-/

namespace Gatehouse.Database

/-- **A value.** Reals and numbers of 128 bits are only told apart from
other values. -/
inductive Value where
  | text (s : String)
  | bytes (b : ByteArray)
  | natural (n : Nat)
  | integer (n : Int)
  | wide
  | real
  | boolean (b : Bool)
  | array (items : List Value)
  | map (members : List (Value × Value))
deriving Inhabited

/-- A part of a file in which places are counted from its start. -/
structure Section where
  data : ByteArray
  start : Nat

namespace Section

/-- The places that the section has room for. -/
def size (s : Section) : Nat := s.data.size - s.start

/-- The bytes from a place on, if there are so many. -/
def slice? (s : Section) (place count : Nat) : Option ByteArray :=
  let i := s.start + place
  if i + count ≤ s.data.size then some (s.data.extract i (i + count)) else none

/-- The number that bytes write, the most significant byte first. -/
def bigEndian (b : ByteArray) : Nat :=
  b.toList.foldl (fun acc x => acc * 256 + x.toNat) 0

/-- The number in the bytes from a place on. -/
def number? (s : Section) (place count : Nat) : Option Nat :=
  (s.slice? place count).map bigEndian

/-- A number with a sign bit in front of 31 others. -/
def signed32 (n : Nat) : Int :=
  if n < 2147483648 then Int.ofNat n else Int.ofNat n - 4294967296

/-- The control in front of a value: its kind, its size, and the place
behind. Kinds from eight on take a second byte, and sizes from 29 on
continue in one, two or three more. -/
def control? (s : Section) (place : Nat) : Option (Nat × Nat × Nat) := do
  let head ← s.number? place 1
  let (kind, place) ←
    if head / 32 = 0 then do
      let more ← s.number? (place + 1) 1
      pure (more + 7, place + 2)
    else pure (head / 32, place + 1)
  let low := head % 32
  let extra := low - 28
  let more ← s.number? place extra
  let size :=
    if low < 29 then low
    else if low = 29 then 29 + more
    else if low = 30 then 285 + more
    else 65821 + more
  return (kind, size, place + extra)

/-- The place that a pointer names, and the place behind the pointer. The
size holds two bits for the number of bytes and the three highest bits of
the place, except that four bytes are the place alone. -/
def pointer? (s : Section) (size place : Nat) : Option (Nat × Nat) := do
  let count := size / 8 % 4 + 1
  let low ← s.number? place count
  let high := size % 8 * Nat.pow 256 count
  let target :=
    if count = 1 then high + low
    else if count = 2 then high + low + 2048
    else if count = 3 then high + low + 526336
    else low
  return (target, place + count)

/-- A number of at most so many bytes. -/
def bounded? (s : Section) (limit size place : Nat) : Option Nat :=
  if size ≤ limit then s.number? place size else none

/-- Reads so many things one behind the other. -/
def many {α : Type} (read : Nat → Option (α × Nat)) :
    Nat → Nat → Option (List α × Nat)
  | 0, place => some ([], place)
  | count + 1, place => do
    let (a, place) ← read place
    let (rest, place) ← many read count place
    return (a :: rest, place)

/-- Reads two things one behind the other. -/
def pair {α : Type} (read : Nat → Option (α × Nat)) (place : Nat) :
    Option ((α × α) × Nat) := do
  let (a, place) ← read place
  let (b, place) ← read place
  return ((a, b), place)

/-- Reads the value at a place, down to some depth of nesting. -/
def readAt (s : Section) : (depth : Nat) → Nat → Option (Value × Nat)
  | 0, _ => none
  | depth + 1, place => do
    let (kind, size, place) ← s.control? place
    match kind with
    | 1 =>
      let (target, place) ← s.pointer? size place
      let (v, _) ← readAt s depth target
      return (v, place)
    | 2 => return (.text (← String.fromUTF8? (← s.slice? place size)), place + size)
    | 3 =>
      let _ ← s.slice? place size
      if size = 8 then return (.real, place + size) else none
    | 4 => return (.bytes (← s.slice? place size), place + size)
    | 5 => return (.natural (← s.bounded? 2 size place), place + size)
    | 6 => return (.natural (← s.bounded? 4 size place), place + size)
    | 7 =>
      let (members, place) ← many (pair (readAt s depth)) size place
      return (.map members, place)
    | 8 => return (.integer (signed32 (← s.bounded? 4 size place)), place + size)
    | 9 => return (.natural (← s.bounded? 8 size place), place + size)
    | 10 =>
      let _ ← s.bounded? 16 size place
      return (.wide, place + size)
    | 11 =>
      let (items, place) ← many (readAt s depth) size place
      return (.array items, place)
    | 14 =>
      if size = 0 then return (.boolean false, place)
      else if size = 1 then return (.boolean true, place)
      else none
    | 15 =>
      let _ ← s.slice? place size
      if size = 4 then return (.real, place + size) else none
    | _ => none

/-- **The value at a place.** -/
def value? (s : Section) (place : Nat) : Option Value :=
  (s.readAt (s.size + 1) place).map (·.1)

end Section

end Gatehouse.Database
