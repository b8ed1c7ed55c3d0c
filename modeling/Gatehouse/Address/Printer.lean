import Gatehouse.Address.Basic
import Gatehouse.Text.Ascii

/-!
# Writing addresses

IPv4 addresses are written with four decimal octets. An IPv6 address is
written with lower-case groups without leading zeros, where the first
longest run of at least two zero groups is left out between two colons; an
address that carries an IPv4 address is written with it.
-/

namespace Gatehouse

open Text

namespace IPv4

/-- The four octets in decimal. -/
def toChars (ip : IPv4) : List Char :=
  List.intercalate ['.'] (ip.octets.map fun o => Nat.toDigits 10 o.toNat)

end IPv4

namespace IPv6

/-- The groups in hexadecimal, between colons. -/
def groupChars (gs : List UInt16) : List Char :=
  List.intercalate [':'] (gs.map fun g => Nat.toDigits 16 g.toNat)

/-- The length of the run of zeros at the head of a list of groups. -/
def zeroRun : List UInt16 → Nat
  | [] => 0
  | g :: gs => if g = 0 then zeroRun gs + 1 else 0

/-- The first longest run of zero groups, as its start and its length. -/
def longestRun : List UInt16 → Nat × Nat
  | [] => (0, 0)
  | g :: gs =>
    let here := zeroRun (g :: gs)
    let later := longestRun gs
    if here ≥ later.2 then (0, here) else (later.1 + 1, later.2)

/-- The shortened notation by groups alone. -/
def shortChars (ip : IPv6) : List Char :=
  let (start, count) := longestRun ip.groups
  if count ≥ 2 then
    groupChars (ip.groups.take start) ++ [':', ':']
      ++ groupChars (ip.groups.drop (start + count))
  else groupChars ip.groups

/-- The shortened notation. -/
def toChars (ip : IPv6) : List Char :=
  match ip.mapped? with
  | some v4 => "::ffff:".toList ++ v4.toChars
  | none => ip.shortChars

end IPv6

namespace Address

/-- The notation of the address's version. -/
def toChars : Address → List Char
  | .v4 ip => ip.toChars
  | .v6 ip => ip.toChars

/-- The text of an address. -/
def toText (a : Address) : String := String.ofList a.toChars

end Address

namespace Endpoint

/-- The address, in brackets for IPv6, with a colon and the port. -/
def toChars (e : Endpoint) : List Char :=
  let port := ':' :: Nat.toDigits 10 e.port.toNat
  match e.address with
  | .v4 ip => ip.toChars ++ port
  | .v6 ip => ['['] ++ ip.toChars ++ [']'] ++ port

/-- The text of an endpoint. -/
def toText (e : Endpoint) : String := String.ofList e.toChars

end Endpoint

end Gatehouse
