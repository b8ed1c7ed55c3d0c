import Gatehouse.Bytes

/-!
# Bodies

A body is described by what a reader gets out of it: some bytes, and then
either its regular end or a failure. Whether the length is announced before
the bytes are read is kept apart, because it decides about headers
(`content-length`), caching and compression.
-/

namespace Gatehouse.Http

/-- The body of a request or a response. -/
structure Body where
  /-- The bytes that can be read. -/
  data : Bytes
  /-- Whether the length is known before reading. -/
  sized : Bool
  /-- Whether the body ends regularly after its bytes; otherwise reading
  it fails there. -/
  complete : Bool
  /-- The lengths of the frames in which the bytes come, one after the other.
  What is left behind them comes as one more. -/
  frames : List Nat := []
deriving DecidableEq, Inhabited

namespace Body

/-- A complete body of known length. -/
def ofBytes (b : Bytes) : Body := ⟨b, true, true, []⟩

/-- The body of known length zero. -/
def empty : Body := ofBytes []

/-- A complete body holding a text. -/
def ofString (s : String) : Body := ofBytes (Bytes.ofString s)

/-- The length, where it is known before reading. -/
def exactSize? (b : Body) : Option Nat :=
  if b.sized then some b.data.length else none

/-- **All bytes of the body**, unless reading fails. -/
def read? (b : Body) : Option Bytes :=
  if b.complete then some b.data else none

/-- All bytes of the body, unless reading fails or yields more than
`limit` bytes. -/
def readWithin? (b : Body) (limit : Nat) : Option Bytes :=
  if b.data.length ≤ limit then b.read? else none

/-- The bytes in the frames up to the first one with which they would be more
than `limit`. -/
def fitting : List Nat → Nat → Nat
  | [], _ => 0
  | n :: rest, limit => if n ≤ limit then n + fitting rest (limit - n) else 0

/-- The body cut short at `limit` bytes: a longer one fails instead of ending,
with the first frame that does not fit. -/
def limited (b : Body) (limit : Nat) : Body :=
  if b.data.length ≤ limit then b
  else { b with data := b.data.take (fitting b.frames limit), complete := false }

theorem fitting_le (frames : List Nat) (limit : Nat) : fitting frames limit ≤ limit := by
  induction frames generalizing limit with
  | nil => exact Nat.zero_le limit
  | cons n rest ih =>
    unfold fitting
    split
    · next hfits => exact Nat.add_le_of_le_sub' hfits (ih (limit - n))
    · exact Nat.zero_le limit

theorem read?_limited {b : Body} {limit : Nat} :
    (b.limited limit).read? = b.readWithin? limit := by
  unfold limited readWithin? read?
  split <;> simp

theorem length_limited_le (b : Body) (limit : Nat) :
    (b.limited limit).data.length ≤ limit := by
  unfold limited
  split
  · assumption
  · exact Nat.le_trans (List.length_take_le ..) (fitting_le b.frames limit)

end Body

end Gatehouse.Http
