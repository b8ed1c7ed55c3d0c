/-!
# Internet addresses

An address is of the fourth or of the sixth version of the protocol. The
two stay apart even where they name the same host: `::ffff:10.0.0.1` is an
`Address.v6`, and `IPv6.mapped?` is the bridge to the IPv4 address it
carries. Both kinds can be read as one number (`toNat`), in which networks
are intervals.
-/

namespace Gatehouse

/-- An IPv4 address by its four octets. -/
structure IPv4 where
  a : UInt8
  b : UInt8
  c : UInt8
  d : UInt8
deriving DecidableEq, Inhabited

/-- An IPv6 address by its eight groups of sixteen bits. -/
structure IPv6 where
  g0 : UInt16
  g1 : UInt16
  g2 : UInt16
  g3 : UInt16
  g4 : UInt16
  g5 : UInt16
  g6 : UInt16
  g7 : UInt16
deriving DecidableEq, Inhabited

/-- An address of either version. -/
inductive Address where
  | v4 (ip : IPv4)
  | v6 (ip : IPv6)
deriving DecidableEq, Inhabited

/-- **A transport endpoint**: an address and a port. The zone of a
link-local address is read but not kept, as nothing depends on it. -/
structure Endpoint where
  address : Address
  port : UInt16
deriving DecidableEq, Inhabited

namespace IPv4

/-- The octets, first to last. -/
def octets (ip : IPv4) : List UInt8 := [ip.a, ip.b, ip.c, ip.d]

/-- The address as a number of 32 bits. -/
def toNat (ip : IPv4) : Nat :=
  ip.octets.foldl (fun acc o => acc * 256 + o.toNat) 0

/-- The two groups of sixteen bits that write the address at the end of an
IPv6 address. -/
def groups (ip : IPv4) : List UInt16 :=
  [ip.a.toUInt16 * 256 + ip.b.toUInt16, ip.c.toUInt16 * 256 + ip.d.toUInt16]

/-- The address whose octets are the bytes of two groups. -/
def ofGroups (hi lo : UInt16) : IPv4 :=
  ⟨(hi >>> 8).toUInt8, hi.toUInt8, (lo >>> 8).toUInt8, lo.toUInt8⟩

end IPv4

namespace IPv6

/-- The groups, first to last. -/
def groups (ip : IPv6) : List UInt16 :=
  [ip.g0, ip.g1, ip.g2, ip.g3, ip.g4, ip.g5, ip.g6, ip.g7]

/-- The address with the given groups, if there are eight of them. -/
def ofGroups? : List UInt16 → Option IPv6
  | [a, b, c, d, e, f, g, h] => some ⟨a, b, c, d, e, f, g, h⟩
  | _ => none

@[simp] theorem ofGroups?_groups (ip : IPv6) : ofGroups? ip.groups = some ip := rfl

theorem groups_of_ofGroups? {gs : List UInt16} {ip : IPv6}
    (h : ofGroups? gs = some ip) : ip.groups = gs := by
  unfold ofGroups? at h
  split at h
  · cases h; rfl
  · cases h

/-- The address as a number of 128 bits. -/
def toNat (ip : IPv6) : Nat :=
  ip.groups.foldl (fun acc g => acc * 65536 + g.toNat) 0

/-- The IPv4 address that the address carries after the lead
`::ffff:0:0/96`, if it begins so. -/
def mapped? (ip : IPv6) : Option IPv4 :=
  if ip.g0 = 0 ∧ ip.g1 = 0 ∧ ip.g2 = 0 ∧ ip.g3 = 0 ∧ ip.g4 = 0
      ∧ ip.g5 = 0xffff then
    some (IPv4.ofGroups ip.g6 ip.g7)
  else none

end IPv6

/-- The IPv6 address that carries an IPv4 address. -/
def IPv4.toMapped (ip : IPv4) : IPv6 :=
  ⟨0, 0, 0, 0, 0, 0xffff,
    ip.a.toUInt16 * 256 + ip.b.toUInt16, ip.c.toUInt16 * 256 + ip.d.toUInt16⟩

end Gatehouse
