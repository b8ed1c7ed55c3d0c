import Gatehouse.Address.Basic

/-!
# Where an address lives

The country filter leaves loopback and private networks alone. An address
belongs to one of three zones; an IPv6 address that carries an IPv4 address
belongs to the zone of the one it carries.
-/

namespace Gatehouse

/-- The part of the address space that an address belongs to. -/
inductive Zone where
  /-- The host itself: `127.0.0.0/8` and `::1`. -/
  | loopback
  /-- Private and link-local networks. -/
  | privateUse
  /-- Everything else. -/
  | global
deriving DecidableEq, Inhabited

/-- Whether requests from the zone are admitted without a lookup. -/
def Zone.isTrusted : Zone → Bool
  | .global => false
  | _ => true

/-- The zone of an IPv4 address, by its leading octets. -/
def IPv4.zone (ip : IPv4) : Zone :=
  if ip.a = 127 then .loopback
  else if ip.a = 10 ∨ (ip.a = 172 ∧ ip.b &&& 0xf0 = 16)
      ∨ (ip.a = 192 ∧ ip.b = 168) ∨ (ip.a = 169 ∧ ip.b = 254) then
    .privateUse
  else .global

/-- The zone of an IPv6 address, by its leading group unless it is the
loopback address or carries an IPv4 address. -/
def IPv6.zone (ip : IPv6) : Zone :=
  match ip.mapped? with
  | some v4 => v4.zone
  | none =>
    if ip = ⟨0, 0, 0, 0, 0, 0, 0, 1⟩ then .loopback
    else if ip.g0 &&& 0xfe00 = 0xfc00 ∨ ip.g0 &&& 0xffc0 = 0xfe80 then
      .privateUse
    else .global

/-- The zone of an address. -/
def Address.zone : Address → Zone
  | .v4 ip => ip.zone
  | .v6 ip => ip.zone

end Gatehouse
