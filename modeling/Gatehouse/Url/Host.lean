import Gatehouse.Address.Parser
import Gatehouse.Address.Printer
import Gatehouse.Url.Idna.Name
import Gatehouse.Url.Percent

/-!
# Hosts of URLs

The host of a URL is a name or an address. The notation for addresses is
the lenient one of URLs: an IPv4 address has one to four numbers, each in
decimal, octal or hexadecimal, and the last one fills the bytes that are
left. A name whose last part looks like a number has to be such an address.

URLs of unknown schemes keep their host as it is written, up to percent
encoding.
-/

namespace Gatehouse.Url

open Text

/-- Why a text is no URL. -/
inductive UrlError where
  /-- There is no scheme. -/
  | relative
  /-- The host is missing where there has to be one. -/
  | emptyHost
  /-- The host is no name in any script. -/
  | invalidName
  /-- The host looks like an IPv4 address, and is none. -/
  | invalidIPv4
  /-- The host begins with a bracket, and is no IPv6 address. -/
  | invalidIPv6
  /-- The host has a character that it must not contain. -/
  | invalidCharacter
  /-- The port is no number of 16 bits. -/
  | invalidPort
deriving DecidableEq, Inhabited

/-- The text of a URL error. -/
def UrlError.message : UrlError → String
  | .relative => "relative URL without a base"
  | .emptyHost => "empty host"
  | .invalidName => "invalid international domain name"
  | .invalidIPv4 => "invalid IPv4 address"
  | .invalidIPv6 => "invalid IPv6 address"
  | .invalidCharacter => "invalid domain character"
  | .invalidPort => "invalid port number"

/-- The host of a URL. -/
inductive Host where
  /-- A name, or the uninterpreted host of an unknown scheme. -/
  | name (s : String)
  | v4 (ip : IPv4)
  | v6 (ip : IPv6)
deriving DecidableEq, Inhabited

namespace Host

/-- The text of a host. An address in brackets is written by its groups, also
where it carries an IPv4 address. -/
def toChars : Host → List Char
  | .name s => s.toList
  | .v4 ip => ip.toChars
  | .v6 ip => '[' :: ip.shortChars ++ [']']

/-! ## Lenient IPv4 addresses -/

/-- What a part of an IPv4 address writes. -/
inductive Number where
  | notANumber
  /-- More than 32 bits. -/
  | tooLarge
  | value (n : Nat)

/-- The number of digits in a base, all of which must satisfy `ok`. -/
def numberIn (base : Nat) (ok : Char → Bool) (s : List Char) : Number :=
  if s.all ok then
    let n := s.foldl (fun acc c => acc * base + (hexValue? c).getD 0) 0
    if n < 4294967296 then .value n else .tooLarge
  else .notANumber

/-- A number in decimal, in octal after `0`, or in hexadecimal after
`0x`. -/
def number (s : List Char) : Number :=
  match s with
  | [] => .notANumber
  | '0' :: 'x' :: rest => numberIn 16 isHex rest
  | '0' :: 'X' :: rest => numberIn 16 isHex rest
  | '0' :: c :: rest => numberIn 8 (fun d => d.isDigit && d.toNat < 56) (c :: rest)
  | _ => numberIn 10 Char.isDigit s

/-- The parts of a name between dots; one dot at the end is ignored. -/
def dottedParts (s : List Char) : List (List Char) :=
  let parts := splitAt (· == '.') s
  if parts.getLast? == some [] then parts.dropLast else parts

/-- Whether a name has to be an IPv4 address: its last part is all digits or
a number. -/
def endsInNumber (s : List Char) : Bool :=
  match (dottedParts s).getLast? with
  | none => false
  | some last =>
    (!last.isEmpty && last.all Char.isDigit)
      || match number last with
        | .notANumber => false
        | _ => true

/-- The address of a list of numbers, of which the last one fills the bytes
that the others leave. -/
def addressOf? (numbers : List Nat) : Option IPv4 :=
  match numbers.reverse with
  | [] => none
  | last :: others =>
    let leading := others.reverse
    if leading.length ≤ 3 && leading.all (· < 256)
        && last < Nat.pow 256 (4 - leading.length) then
      let n := leading.foldl (fun acc x => acc * 256 + x) 0
        * Nat.pow 256 (4 - leading.length) + last
      some ⟨UInt8.ofNat (n / 16777216), UInt8.ofNat (n / 65536 % 256),
        UInt8.ofNat (n / 256 % 256), UInt8.ofNat (n % 256)⟩
    else none

/-- The IPv4 address that a name writes. -/
def lenientIPv4? (s : List Char) : Option IPv4 := do
  let numbers ← (dottedParts s).mapM fun p =>
    match number p with
    | .value n => some n
    | _ => none
  addressOf? numbers

/-! ## Reading -/

/-- The address between brackets. -/
def bracketed (s : List Char) : Except UrlError Host :=
  match (Address.unbracketed? s).bind IPv6.parse? with
  | some ip => .ok (.v6 ip)
  | none => .error .invalidIPv6

/-- **The host of a URL whose scheme is known.** -/
def parse (s : List Char) : Except UrlError Host :=
  if s.head? == some '[' then bracketed s
  else
    match Bytes.utf8? (percentDecode (Bytes.ofString (String.ofList s))) with
    | none => .error .invalidName
    | some decoded =>
      match Idna.toAscii? decoded.toList with
      | none => .error .invalidName
      | some [] => .error .emptyHost
      | some ascii =>
        if endsInNumber ascii then
          match lenientIPv4? ascii with
          | some ip => .ok (.v4 ip)
          | none => .error .invalidIPv4
        else .ok (.name (String.ofList ascii))

/-- Whether a character is refused in an uninterpreted host. -/
def isForbiddenOpaque (c : Char) : Bool :=
  c.toNat == 0 || "\t\n\r #/:<>?@[\\]^|".toList.contains c

/-- The host of a URL of an unknown scheme. -/
def parseOpaque (s : List Char) : Except UrlError Host :=
  if s.head? == some '[' then bracketed s
  else if s.any isForbiddenOpaque then .error .invalidCharacter
  else .ok (.name (String.ofList (percentEncode isControlOrWide s)))

end Host

end Gatehouse.Url
