import Gatehouse.Text.Ascii
import Gatehouse.Text.Blank
import Gatehouse.Text.Decimal

/-!
# Byte ranges

A `Range` header asks for parts of a file: `bytes=` and one or more ranges
between commas, each `first-last`, `first-` or `-length`. Positions are
counted from zero and ends are included. `ByteRange.parse?` reads the
header, and `ByteRange.resolve?` fits what was read to the size of a file.
-/

namespace Gatehouse.Http

open Text

/-- One range as it is asked for. -/
inductive ByteRange where
  /-- From a position to another, or to the end. -/
  | span (first : Nat) (last : Option Nat)
  /-- The given number of bytes at the end. -/
  | suffix (length : Nat)
deriving DecidableEq, Inhabited

namespace ByteRange

/-- A position: digits without a leading zero. -/
def position? (s : List Char) : Option Nat :=
  if s.length > 1 && s.head? == some '0' then none
  else Decimal.digits? Decimal.max64 s

/-- One range. A suffix must not be empty. -/
def parseOne? (s : List Char) : Option ByteRange :=
  match splitAt (· == '-') s with
  | [[], length] => do
    let n ← position? length
    guard (n ≠ 0)
    return .suffix n
  | [first, []] => do return .span (← position? first) none
  | [first, last] => do return .span (← position? first) (some (← position? last))
  | _ => none

/-- One range in a list of ranges: at most one blank stands in it, and none
at its end. -/
def parseMember? (s : List Char) : Option ByteRange :=
  if (s.filter isBlank).length > 1 || (s.getLast?.map isBlank).getD false then none
  else parseOne? (trimChars s)

/-- **The ranges of a `Range` header.** -/
def parse? (s : List Char) : Option (List ByteRange) := do
  let ranges ← afterLead? "bytes=".toList s
  guard (!(ranges.head?.map isBlank).getD false)
  (splitAt (· == ',') ranges).mapM parseMember?

/-- The first and last position that a range has in a file of the given
size. A suffix has to fit; an end beyond the file is moved to its last
byte. -/
def bounds? (size : Nat) : ByteRange → Option (Nat × Nat)
  | .span first last =>
    let last := match last with
      | some l => min l (size - 1)
      | none => size - 1
    if first ≤ last then some (first, last) else none
  | .suffix length =>
    if length ≤ size && size - length ≤ size - 1 then
      some (size - length, size - 1)
    else none

/-- Whether two ranges have a position in common. -/
def overlap (a b : Nat × Nat) : Bool := a.1 ≤ b.2 && b.1 ≤ a.2

/-- Whether no range overlaps a later one. -/
def disjoint : List (Nat × Nat) → Bool
  | [] => true
  | r :: rs => rs.all (!overlap r ·) && disjoint rs

/-- **The positions of ranges in a file**, if each lies in it and no two
overlap. -/
def resolve? (size : Nat) (ranges : List ByteRange) :
    Option (List (Nat × Nat)) := do
  let spans ← ranges.mapM (bounds? size)
  guard (disjoint spans)
  return spans

end ByteRange

end Gatehouse.Http
