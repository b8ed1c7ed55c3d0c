import Gatehouse.Proofs.Address.Carried

/-!
# Zones are made of networks

The gate finds the zone of an address by its octets and by masks on its first
group. An operator thinks of networks: a base, and the number of leading bits
that an address has to share with it. This module reads addresses as numbers, of
32 or of 128 bits, in which a network is what has the same quotient by a power of
two (`Network.Contains`), and says of each zone which networks it is made of.

A mask that keeps the high bits of a word compares exactly that quotient
(`and_highBits_eq_iff`). The IPv4 networks come a second time in IPv6, as the
addresses that carry theirs; these are networks again, behind a lead of 96 bits
(`Network.contains_toMapped_iff`).
-/

namespace Gatehouse

/-! ## Leading bits -/

/-- **A mask of high bits** compares what a number has above its low bits. -/
theorem and_highBits_eq_iff {x : Nat} (low high lead : Nat) (hx : x < 2 ^ (low + high)) :
    x &&& (2 ^ high - 1) * 2 ^ low = lead * 2 ^ low ↔ x / 2 ^ low = lead := by
  have hpos : 0 < 2 ^ low := Nat.two_pow_pos low
  have hquotient : x / 2 ^ low < 2 ^ high := by
    rw [Nat.div_lt_iff_lt_mul hpos, ← Nat.pow_add, Nat.add_comm high]
    exact hx
  -- the mask takes nothing of the low bits and everything above
  have hkept : x &&& (2 ^ high - 1) * 2 ^ low = x / 2 ^ low * 2 ^ low := by
    rw [← Nat.mod_add_div (x &&& _) (2 ^ low), Nat.and_mod_two_pow, Nat.and_div_two_pow,
      Nat.mul_mod_left, Nat.and_zero, Nat.zero_add, Nat.mul_div_cancel _ hpos,
      Nat.and_two_pow_sub_one_eq_mod, Nat.mod_eq_of_lt hquotient, Nat.mul_comm]
  rw [hkept]
  exact Nat.mul_left_inj (Nat.pos_iff_ne_zero.mp hpos)

namespace IPv6

/-- The number of an address, by its groups. -/
theorem toNat_eq (x : IPv6) :
    x.toNat = x.g0.toNat * 2 ^ 112 + x.g1.toNat * 2 ^ 96 + x.g2.toNat * 2 ^ 80
      + x.g3.toNat * 2 ^ 64 + x.g4.toNat * 2 ^ 48 + x.g5.toNat * 2 ^ 32
      + x.g6.toNat * 2 ^ 16 + x.g7.toNat := by
  simp only [toNat, groups, List.foldl_cons, List.foldl_nil]
  omega

/-- The first sixteen bits are the first group. -/
theorem toNat_div (x : IPv6) : x.toNat / 2 ^ 112 = x.g0.toNat := by
  have h1 := x.g1.toNat_lt
  have h2 := x.g2.toNat_lt
  have h3 := x.g3.toNat_lt
  have h4 := x.g4.toNat_lt
  have h5 := x.g5.toNat_lt
  have h6 := x.g6.toNat_lt
  have h7 := x.g7.toNat_lt
  rw [toNat_eq]
  omega

/-- **An address carries another** if its first 96 bits say so. -/
theorem exists_eq_toMapped_iff {x : IPv6} :
    (∃ ip : IPv4, x = ip.toMapped) ↔ x.toNat / 2 ^ 32 = 0xffff := by
  constructor
  · rintro ⟨ip, rfl⟩
    have hlt := ip.toNat_lt
    rw [IPv4.toNat_toMapped]
    omega
  · intro h
    have hlead : x.g0.toNat = 0 ∧ x.g1.toNat = 0 ∧ x.g2.toNat = 0 ∧ x.g3.toNat = 0
        ∧ x.g4.toNat = 0 ∧ x.g5.toNat = 0xffff := by
      have h5 := x.g5.toNat_lt
      have h6 := x.g6.toNat_lt
      have h7 := x.g7.toNat_lt
      rw [toNat_eq] at h
      omega
    have hmapped : x.mapped? = some (IPv4.ofGroups x.g6 x.g7) := by
      unfold mapped?
      simp only [← UInt16.toNat_inj]
      exact if_pos hlead
    exact ⟨_, mapped?_eq_some_iff.mp hmapped⟩

end IPv6

/-! ## Networks -/

namespace Address

/-- The number of bits of an address. -/
def width : Address → Nat
  | .v4 _ => 32
  | .v6 _ => 128

@[simp] theorem width_v4 (ip : IPv4) : (Address.v4 ip).width = 32 := rfl

@[simp] theorem width_v6 (ip : IPv6) : (Address.v6 ip).width = 128 := rfl

/-- The address as a number of its width. -/
def toNat : Address → Nat
  | .v4 ip => ip.toNat
  | .v6 ip => ip.toNat

end Address

/-- **A network**: the addresses of one version that begin with the same bits as
its base. -/
structure Network where
  base : Address
  /-- How many bits they have in common. -/
  bits : Nat

namespace Network

/-- Whether an address lies in a network. -/
def Contains (n : Network) (a : Address) : Prop :=
  a.width = n.base.width
    ∧ a.toNat / 2 ^ (a.width - n.bits) = n.base.toNat / 2 ^ (a.width - n.bits)

section V4

variable {ip : IPv4}

/-- A network of one octet. -/
theorem contains_octet_iff (o : UInt8) :
    Contains ⟨.v4 ⟨o, 0, 0, 0⟩, 8⟩ (.v4 ip) ↔ ip.a = o := by
  have hb := ip.b.toNat_lt
  have hc := ip.c.toNat_lt
  have hd := ip.d.toNat_lt
  simp only [Contains, Address.width, Address.toNat, IPv4.toNat_eq, UInt8.toNat_zero,
    ← UInt8.toNat_inj, true_and]
  omega

/-- A network of two octets. -/
theorem contains_octets_iff (o p : UInt8) :
    Contains ⟨.v4 ⟨o, p, 0, 0⟩, 16⟩ (.v4 ip) ↔ ip.a = o ∧ ip.b = p := by
  have hb := ip.b.toNat_lt
  have hp := p.toNat_lt
  have hc := ip.c.toNat_lt
  have hd := ip.d.toNat_lt
  simp only [Contains, Address.width, Address.toNat, IPv4.toNat_eq, UInt8.toNat_zero,
    ← UInt8.toNat_inj, true_and]
  omega

/-- A network of an octet and the high half of the next one. -/
theorem contains_twelve_iff (o : UInt8) :
    Contains ⟨.v4 ⟨o, 16, 0, 0⟩, 12⟩ (.v4 ip) ↔ ip.a = o ∧ ip.b &&& 0xf0 = 16 := by
  have hb := ip.b.toNat_lt
  have hc := ip.c.toNat_lt
  have hd := ip.d.toNat_lt
  have hmask : ip.b &&& 0xf0 = 16 ↔ ip.b.toNat / 2 ^ 4 = 1 := by
    rw [← UInt8.toNat_inj, UInt8.toNat_and]
    exact and_highBits_eq_iff 4 4 1 hb
  rw [hmask]
  simp only [Contains, Address.width, Address.toNat, IPv4.toNat_eq, UInt8.toNat_zero,
    UInt8.reduceToNat, ← UInt8.toNat_inj, true_and]
  omega

end V4

section V6

variable {x : IPv6}

/-- A network within the first group. -/
theorem contains_group_iff (low : Nat) {high : Nat} (hword : low + high = 16) (g : UInt16) :
    Contains ⟨.v6 ⟨g, 0, 0, 0, 0, 0, 0, 0⟩, high⟩ (.v6 x)
      ↔ x.g0.toNat / 2 ^ low = g.toNat / 2 ^ low := by
  have hexp : 128 - high = 112 + low := by omega
  show 128 = 128 ∧ x.toNat / 2 ^ (128 - high) = IPv6.toNat _ / 2 ^ (128 - high) ↔ _
  rw [hexp, Nat.pow_add, ← Nat.div_div_eq_div_mul, ← Nat.div_div_eq_div_mul, IPv6.toNat_div,
    IPv6.toNat_div]
  exact and_iff_right rfl

/-- **The addresses that carry a network** are a network. -/
theorem contains_toMapped_iff (base : IPv4) (bits : Nat) (hbits : bits ≤ 32) :
    Contains ⟨.v6 base.toMapped, 96 + bits⟩ (.v6 x)
      ↔ ∃ ip, Contains ⟨.v4 base, bits⟩ (.v4 ip) ∧ x = ip.toMapped := by
  have hexp : 128 - (96 + bits) = 32 - bits := by omega
  have hpow : 2 ^ 32 = 2 ^ bits * 2 ^ (32 - bits) := by
    rw [← Nat.pow_add, Nat.add_sub_cancel' hbits]
  -- the lead stays in front of what a quotient leaves
  have hdiv (ip : IPv4) : ip.toMapped.toNat / 2 ^ (32 - bits)
      = ip.toNat / 2 ^ (32 - bits) + 0xffff * 2 ^ bits := by
    rw [IPv4.toNat_toMapped, hpow, ← Nat.mul_assoc, Nat.add_comm,
      Nat.add_mul_div_right _ _ (Nat.two_pow_pos _)]
  show 128 = 128 ∧ x.toNat / 2 ^ (128 - (96 + bits))
    = base.toMapped.toNat / 2 ^ (128 - (96 + bits)) ↔ _
  rw [hexp]
  constructor
  · rintro ⟨-, h⟩
    have hlead : x.toNat / 2 ^ 32 = 0xffff := by
      have hcarried := IPv6.exists_eq_toMapped_iff.mp ⟨base, rfl⟩
      rw [hpow, Nat.mul_comm, ← Nat.div_div_eq_div_mul] at hcarried ⊢
      rw [h, hcarried]
    obtain ⟨ip, rfl⟩ := IPv6.exists_eq_toMapped_iff.mpr hlead
    rw [hdiv, hdiv, Nat.add_right_cancel_iff] at h
    exact ⟨ip, ⟨rfl, h⟩, rfl⟩
  · rintro ⟨ip, ⟨-, h⟩, rfl⟩
    have h : ip.toNat / 2 ^ (32 - bits) = base.toNat / 2 ^ (32 - bits) := h
    rw [hdiv, hdiv, h]
    exact ⟨rfl, rfl⟩

end V6

end Network

/-! ## The zones -/

/-- The IPv4 networks for private use and for use on one link. -/
def privateNetworks : List Network :=
  [⟨.v4 ⟨10, 0, 0, 0⟩, 8⟩, ⟨.v4 ⟨172, 16, 0, 0⟩, 12⟩, ⟨.v4 ⟨192, 168, 0, 0⟩, 16⟩,
    ⟨.v4 ⟨169, 254, 0, 0⟩, 16⟩]

/-- **The addresses of the host itself**: `127.0.0.0/8`, `::1` and
`::ffff:127.0.0.0/104`. -/
def Address.IsLoopback (a : Address) : Prop :=
  Network.Contains ⟨.v4 ⟨127, 0, 0, 0⟩, 8⟩ a
    ∨ a = .v6 ⟨0, 0, 0, 0, 0, 0, 0, 1⟩
    ∨ Network.Contains ⟨.v6 (IPv4.toMapped ⟨127, 0, 0, 0⟩), 104⟩ a

/-- **The addresses of private networks**: those of `privateNetworks`, those that
carry one of them, `fc00::/7` and `fe80::/10`. -/
def Address.IsPrivate (a : Address) : Prop :=
  (∃ n ∈ privateNetworks,
      n.Contains a ∨ ∃ ip, n.Contains (.v4 ip) ∧ a = .v6 ip.toMapped)
    ∨ Network.Contains ⟨.v6 ⟨0xfc00, 0, 0, 0, 0, 0, 0, 0⟩, 7⟩ a
    ∨ Network.Contains ⟨.v6 ⟨0xfe80, 0, 0, 0, 0, 0, 0, 0⟩, 10⟩ a

namespace IPv4

theorem zone_eq_loopback_iff {ip : IPv4} :
    ip.zone = .loopback ↔ Network.Contains ⟨.v4 ⟨127, 0, 0, 0⟩, 8⟩ (.v4 ip) := by
  rw [Network.contains_octet_iff]
  unfold zone
  split
  · simp_all
  · split <;> simp_all

theorem zone_eq_privateUse_iff {ip : IPv4} :
    ip.zone = .privateUse ↔ ∃ n ∈ privateNetworks, n.Contains (.v4 ip) := by
  simp only [privateNetworks, List.mem_cons, List.not_mem_nil, or_false, exists_eq_or_imp,
    exists_eq_left, Network.contains_octet_iff, Network.contains_twelve_iff,
    Network.contains_octets_iff]
  unfold zone
  split
  · next hown => simp [hown]
  · split <;> simp_all

end IPv4

namespace IPv6

variable {x : IPv6}

/-- Two addresses are not carried by one. -/
theorem toMapped_inj {ip ip' : IPv4} : ip.toMapped = ip'.toMapped ↔ ip = ip' := by
  rw [← mapped?_eq_some_iff, mapped?_toMapped, Option.some.injEq]

theorem ne_toMapped (h : x.mapped? = none) (ip : IPv4) : x ≠ ip.toMapped := by
  rintro rfl
  rw [mapped?_toMapped] at h
  cases h

/-- The zone of an address that carries no other. -/
theorem zone_of_not_carrying (h : x.mapped? = none) :
    x.zone = if x = ⟨0, 0, 0, 0, 0, 0, 0, 1⟩ then .loopback
      else if x.g0 &&& 0xfe00 = 0xfc00 ∨ x.g0 &&& 0xffc0 = 0xfe80 then .privateUse
      else .global := by
  unfold zone
  rw [h]

theorem zone_eq_loopback_iff : x.zone = .loopback
    ↔ (∃ ip : IPv4, ip.zone = .loopback ∧ x = ip.toMapped)
      ∨ x = ⟨0, 0, 0, 0, 0, 0, 0, 1⟩ := by
  cases hmapped : x.mapped? with
  | some ip =>
    obtain rfl := mapped?_eq_some_iff.mp hmapped
    have hone : ip.toMapped ≠ ⟨0, 0, 0, 0, 0, 0, 0, 1⟩ := fun h => by
      cases congrArg g5 h
    have hzone : ip.toMapped.zone = ip.zone := Address.zone_toMapped ip
    simp [hzone, toMapped_inj, hone]
  | none =>
    rw [zone_of_not_carrying hmapped]
    split
    · next hone => simp [hone]
    · next hone => split <;> simp [ne_toMapped hmapped, hone]

/-- The masks on the first group compare what the networks have in common. -/
theorem mask_iff : (x.g0 &&& 0xfe00 = 0xfc00 ∨ x.g0 &&& 0xffc0 = 0xfe80)
    ↔ Network.Contains ⟨.v6 ⟨0xfc00, 0, 0, 0, 0, 0, 0, 0⟩, 7⟩ (.v6 x)
      ∨ Network.Contains ⟨.v6 ⟨0xfe80, 0, 0, 0, 0, 0, 0, 0⟩, 10⟩ (.v6 x) := by
  have hlt := x.g0.toNat_lt
  rw [Network.contains_group_iff 9 rfl, Network.contains_group_iff 6 rfl,
    ← UInt16.toNat_inj, ← UInt16.toNat_inj, UInt16.toNat_and, UInt16.toNat_and]
  exact or_congr (and_highBits_eq_iff 9 7 126 hlt)
    (and_highBits_eq_iff 6 10 1018 hlt)

theorem zone_eq_privateUse_iff : x.zone = .privateUse
    ↔ (∃ ip : IPv4, ip.zone = .privateUse ∧ x = ip.toMapped)
      ∨ Network.Contains ⟨.v6 ⟨0xfc00, 0, 0, 0, 0, 0, 0, 0⟩, 7⟩ (.v6 x)
      ∨ Network.Contains ⟨.v6 ⟨0xfe80, 0, 0, 0, 0, 0, 0, 0⟩, 10⟩ (.v6 x) := by
  rw [← mask_iff]
  cases hmapped : x.mapped? with
  | some ip =>
    obtain rfl := mapped?_eq_some_iff.mp hmapped
    have hfirst : ip.toMapped.g0 = 0 := rfl
    have hzone : ip.toMapped.zone = ip.zone := Address.zone_toMapped ip
    simp [hzone, toMapped_inj, hfirst]
  | none =>
    rw [zone_of_not_carrying hmapped]
    split
    · next hone =>
      subst hone
      simp [ne_toMapped hmapped]
    · next hone =>
      split
      · next hmask => simp [hmask]
      · next hmask => simp [ne_toMapped hmapped, hmask]

end IPv6

namespace Address

/-- A network has addresses of one version. -/
theorem not_contains_of_width {n : Network} {a : Address} (h : a.width ≠ n.base.width) :
    ¬ n.Contains a := fun hcontains => h hcontains.1

theorem zone_eq_loopback_iff (a : Address) : a.zone = .loopback ↔ a.IsLoopback := by
  unfold IsLoopback
  cases a with
  | v4 ip =>
    have hnewer (base : IPv6) : ¬ Network.Contains ⟨.v6 base, 104⟩ (.v4 ip) :=
      not_contains_of_width (by simp)
    show ip.zone = .loopback ↔ _
    rw [IPv4.zone_eq_loopback_iff]
    simp [hnewer]
  | v6 x =>
    have holder : ¬ Network.Contains ⟨.v4 ⟨127, 0, 0, 0⟩, 8⟩ (.v6 x) :=
      not_contains_of_width (by simp)
    show x.zone = .loopback ↔ _
    rw [IPv6.zone_eq_loopback_iff,
      Network.contains_toMapped_iff ⟨127, 0, 0, 0⟩ 8 (by decide)]
    simp only [IPv4.zone_eq_loopback_iff, holder, Address.v6.injEq, false_or]
    exact or_comm

theorem zone_eq_privateUse_iff (a : Address) : a.zone = .privateUse ↔ a.IsPrivate := by
  unfold IsPrivate
  cases a with
  | v4 ip =>
    have hnewer (base : IPv6) (bits : Nat) : ¬ Network.Contains ⟨.v6 base, bits⟩ (.v4 ip) :=
      not_contains_of_width (by simp)
    show ip.zone = .privateUse ↔ _
    rw [IPv4.zone_eq_privateUse_iff]
    simp [hnewer]
  | v6 x =>
    have holder {n : Network} (hn : n ∈ privateNetworks) : ¬ n.Contains (.v6 x) := by
      have hwidth : ∀ n ∈ privateNetworks, n.base.width = 32 := by decide
      exact not_contains_of_width (by simp [hwidth n hn])
    show x.zone = .privateUse ↔ _
    rw [IPv6.zone_eq_privateUse_iff]
    refine or_congr ⟨?_, ?_⟩ Iff.rfl
    · rintro ⟨ip, hzone, rfl⟩
      obtain ⟨n, hn, hcontains⟩ := IPv4.zone_eq_privateUse_iff.mp hzone
      exact ⟨n, hn, .inr ⟨ip, hcontains, rfl⟩⟩
    · rintro ⟨n, hn, hcontains | ⟨ip, hcontains, heq⟩⟩
      · exact absurd hcontains (holder hn)
      · cases heq
        exact ⟨ip, IPv4.zone_eq_privateUse_iff.mpr ⟨n, hn, hcontains⟩, rfl⟩

/-- **The zones of the address space**, for addresses of both versions.

An address is the host's own exactly if it lies in `127.0.0.0/8`, is `::1` or lies in
`::ffff:127.0.0.0/104`. It is private exactly if it lies in `10.0.0.0/8`,
`172.16.0.0/12`, `192.168.0.0/16` or `169.254.0.0/16`, carries an address of one of
these, or lies in `fc00::/7` or `fe80::/10`. Every other address is public. The
trusted addresses are those that are not. -/
theorem zone_networks (a : Address) :
    (a.zone = .loopback ↔ a.IsLoopback)
      ∧ (a.zone = .privateUse ↔ a.IsPrivate)
      ∧ (a.zone = .global ↔ ¬ (a.IsLoopback ∨ a.IsPrivate))
      ∧ (a.zone.isTrusted = true ↔ a.IsLoopback ∨ a.IsPrivate) := by
  rw [← zone_eq_loopback_iff, ← zone_eq_privateUse_iff]
  cases a.zone <;> decide

end Address

end Gatehouse
