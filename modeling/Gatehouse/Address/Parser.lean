import Gatehouse.Address.Basic
import Gatehouse.Text.Blank
import Gatehouse.Text.Decimal
import Gatehouse.Text.Ascii

/-!
# Reading addresses

The strict notation is read here: four decimal octets without leading
zeros, and groups of one to four hexadecimal digits with at most one `::`
and an optional IPv4 tail. Zone names, octal octets and short forms of IPv4
are refused. `Address.ofHost?` is the lenient entry point of the request
path, which also takes a port and brackets around the address.
-/

namespace Gatehouse

open Text

namespace IPv4

/-- An octet: one to three digits, no leading zero, at most 255. -/
def octet? (s : List Char) : Option UInt8 :=
  if s.length ≤ 3 && (s.length == 1 || s.head? != some '0') then
    (Decimal.digits? 255 s).map UInt8.ofNat
  else none

/-- Four octets between dots. -/
def parse? (s : List Char) : Option IPv4 :=
  match splitAt (· == '.') s with
  | [a, b, c, d] => do
    return ⟨← octet? a, ← octet? b, ← octet? c, ← octet? d⟩
  | _ => none

end IPv4

namespace IPv6

/-- The value of a list of hexadecimal digits. -/
def hexValue (s : List Char) : Nat :=
  s.foldl (fun acc c => acc * 16 + (hexValue? c).getD 0) 0

/-- A group: one to four hexadecimal digits. -/
def group? (s : List Char) : Option UInt16 :=
  if 1 ≤ s.length && s.length ≤ 4 && s.all isHex then
    some (UInt16.ofNat (hexValue s))
  else none

/-- The groups that pieces of text between colons stand for. With `tail`,
the last piece may be an IPv4 address, which counts for two groups. -/
def pieces? (tail : Bool) : List (List Char) → Option (List UInt16)
  | [] => some []
  | [last] =>
    match group? last with
    | some g => some [g]
    | none => if tail then (IPv4.parse? last).map IPv4.groups else none
  | piece :: rest => do return (← group? piece) :: (← pieces? tail rest)

/-- The groups of a text without `::`; the empty text has none. -/
def groups? (tail : Bool) (s : List Char) : Option (List UInt16) :=
  if s.isEmpty then some [] else pieces? tail (splitAt (· == ':') s)

/-- The text before the first `::` and the text after it. -/
def gap? : List Char → Option (List Char × List Char)
  | [] => none
  | [_] => none
  | c :: d :: rest =>
    if c = ':' && d = ':' then some ([], rest)
    else (gap? (d :: rest)).map fun (before, after) => (c :: before, after)

/-- Eight groups between colons, where `::` stands for at least one group
of zeros. -/
def parse? (s : List Char) : Option IPv6 :=
  match gap? s with
  | none => (groups? true s).bind ofGroups?
  | some (before, after) => do
    let head ← groups? false before
    let tail ← groups? true after
    if head.length + tail.length ≤ 7 then
      ofGroups? (head
        ++ List.replicate (8 - head.length - tail.length) 0 ++ tail)
    else none

end IPv6

namespace Address

/-- An address in the strict notation of its version. -/
def parseChars? (s : List Char) : Option Address :=
  match IPv4.parse? s with
  | some ip => some (.v4 ip)
  | none => (IPv6.parse? s).map .v6

/-- An address in the strict notation of its version. -/
def parse? (s : String) : Option Address := parseChars? s.toList

end Address

namespace Endpoint

/-- A port: one or more digits, at most 65535. -/
def port? (s : List Char) : Option UInt16 :=
  (Decimal.digits? 65535 s).map UInt16.ofNat

/-- The content of the brackets of an IPv6 endpoint: an address and
optionally a numeric zone after `%`. -/
def bracketed? (s : List Char) : Option IPv6 :=
  match cutAt? (· == '%') s with
  | none => IPv6.parse? s
  | some (ip, zone) =>
    if (Decimal.digits? 4294967295 zone).isSome then IPv6.parse? ip else none

/-- `a.b.c.d:port`, or `[address]:port` for IPv6. -/
def parseChars? (s : List Char) : Option Endpoint :=
  match s with
  | '[' :: rest => do
    let (inner, after) ← cutAt? (· == ']') rest
    let ip ← bracketed? inner
    match after with
    | ':' :: port => return ⟨.v6 ip, ← port? port⟩
    | _ => none
  | _ => do
    let (ip, port) ← cutAt? (· == ':') s
    return ⟨.v4 (← IPv4.parse? ip), ← port? port⟩

/-- `a.b.c.d:port`, or `[address]:port` for IPv6. -/
def parse? (s : String) : Option Endpoint := parseChars? s.toList

end Endpoint

namespace Address

/-- The text between a leading and a final bracket. -/
def unbracketed? : List Char → Option (List Char)
  | '[' :: rest =>
    if rest.getLast? = some ']' then some rest.dropLast else none
  | _ => none

/-- **The address of a host**: an endpoint, an address, or an address in
brackets, with blanks around it removed. -/
def ofHostChars? (s : List Char) : Option Address :=
  let s := trimChars s
  match Endpoint.parseChars? s with
  | some e => some e.address
  | none =>
    match parseChars? s with
    | some a => some a
    | none => (unbracketed? s).bind parseChars?

/-- The address of a host, which may carry a port or brackets. -/
def ofHost? (s : String) : Option Address := ofHostChars? s.toList

end Address

end Gatehouse
