import Gatehouse.Bytes
import Gatehouse.Text.Ascii

/-!
# Percent encoding

A byte that must not stand in a URL is written as `%` and two hexadecimal
digits. Decoding leaves a percent sign alone that no two digits follow.
-/

namespace Gatehouse.Url

open Text

/-- The bytes that percent-encoded bytes stand for. -/
def percentDecode : Bytes → Bytes
  | 0x25 :: a :: b :: rest =>
    match hexValue? (Char.ofNat a.toNat), hexValue? (Char.ofNat b.toNat) with
    | some x, some y => UInt8.ofNat (x * 16 + y) :: percentDecode rest
    | _, _ => 0x25 :: percentDecode (a :: b :: rest)
  | b :: rest => b :: percentDecode rest
  | [] => []

/-- A hexadecimal digit, in capitals. -/
def hexDigit (n : Nat) : Char :=
  if n < 10 then Char.ofNat (48 + n) else Char.ofNat (55 + n)

/-- The three characters that stand for a byte. -/
def escapeByte (b : UInt8) : List Char :=
  ['%', hexDigit (b.toNat / 16), hexDigit (b.toNat % 16)]

/-- A character, or the escapes of its bytes if it must not stand as it
is. -/
def percentEncodeChar (escaped : Char → Bool) (c : Char) : List Char :=
  if escaped c then (Bytes.ofString (String.ofList [c])).flatMap escapeByte else [c]

/-- A text in which the given characters are escaped. -/
def percentEncode (escaped : Char → Bool) (s : List Char) : List Char :=
  s.flatMap (percentEncodeChar escaped)

/-- Controls and everything beyond ASCII. -/
def isControlOrWide (c : Char) : Bool := c.toNat < 0x20 || 0x7E < c.toNat

/-- The characters that are escaped in a path. -/
def isEscapedInPath (c : Char) : Bool :=
  isControlOrWide c || " \"#<>?^\x7b\x7d".toList.contains c || c.toNat == 0x60

end Gatehouse.Url
