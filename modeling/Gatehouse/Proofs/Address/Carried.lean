import Mathlib
import Gatehouse.Address.Parser
import Gatehouse.Address.Printer
import Gatehouse.Address.Zone
import Gatehouse.Proofs.Text

/-!
# An address in two notations

An IPv4 address has a second form, the IPv6 address that carries it. The two
forms name one host, and this module says in what they agree: each is
determined by the other (`IPv6.mapped?_eq_some_iff`), they lie in one zone
(`Address.zone_toMapped`), and as numbers they differ by the lead alone
(`IPv4.toNat_toMapped`).

Both forms can be written, and what is written is read back as the form that
was written (`Address.ofHostChars?_form`). So the reader does not bring them
together, and whoever asks about an address has to expect either.
-/

namespace Gatehouse

open Text

/-! ## Octets and groups -/

/-- The number of a group, by its octets. -/
theorem toNat_group (a b : UInt8) :
    (a.toUInt16 * 256 + b.toUInt16).toNat = a.toNat * 256 + b.toNat := by
  have ha := a.toNat_lt
  have hb := b.toNat_lt
  simp only [UInt16.toNat_add, UInt16.toNat_mul, UInt8.toNat_toUInt16, UInt16.reduceToNat]
  omega

/-- Two octets, read back from the group they make up. -/
theorem octets_of_group (a b : UInt8) :
    ((a.toUInt16 * 256 + b.toUInt16) >>> 8).toUInt8 = a
      ∧ (a.toUInt16 * 256 + b.toUInt16).toUInt8 = b := by
  have ha := a.toNat_lt
  have hb := b.toNat_lt
  constructor
  · apply UInt8.toNat.inj
    rw [UInt16.toNat_toUInt8, UInt16.toNat_shiftRight, toNat_group,
      Nat.shiftRight_eq_div_pow]
    simp only [UInt16.reduceToNat, Nat.reduceMod, Nat.reducePow]
    omega
  · apply UInt8.toNat.inj
    rw [UInt16.toNat_toUInt8, toNat_group]
    omega

/-- A group, made up again from its octets. -/
theorem group_of_octets (g : UInt16) :
    (g >>> 8).toUInt8.toUInt16 * 256 + g.toUInt8.toUInt16 = g := by
  have hg := g.toNat_lt
  apply UInt16.toNat.inj
  rw [toNat_group, UInt16.toNat_toUInt8, UInt16.toNat_toUInt8, UInt16.toNat_shiftRight,
    Nat.shiftRight_eq_div_pow]
  simp only [UInt16.reduceToNat, Nat.reduceMod, Nat.reducePow]
  omega

/-- **The carrying address carries the address.** -/
@[simp]
theorem IPv6.mapped?_toMapped (ip : IPv4) : ip.toMapped.mapped? = some ip := by
  obtain ⟨a, b, c, d⟩ := ip
  unfold IPv6.mapped? IPv4.toMapped
  rw [if_pos ⟨rfl, rfl, rfl, rfl, rfl, rfl⟩]
  unfold IPv4.ofGroups
  rw [(octets_of_group a b).1, (octets_of_group a b).2, (octets_of_group c d).1,
    (octets_of_group c d).2]

/-- Only the carrying address does. -/
theorem IPv6.mapped?_eq_some_iff {x : IPv6} {ip : IPv4} :
    x.mapped? = some ip ↔ x = ip.toMapped := by
  constructor
  · intro h
    obtain ⟨g0, g1, g2, g3, g4, g5, g6, g7⟩ := x
    unfold IPv6.mapped? at h
    split at h
    · next hlead =>
      obtain ⟨rfl, rfl, rfl, rfl, rfl, rfl⟩ := hlead
      cases h
      unfold IPv4.toMapped IPv4.ofGroups
      dsimp only
      rw [group_of_octets, group_of_octets]
    · cases h
  · rintro rfl
    exact mapped?_toMapped ip

/-- **Both forms lie in one zone.** -/
@[simp]
theorem Address.zone_toMapped (ip : IPv4) : (Address.v6 ip.toMapped).zone = ip.zone := by
  show ip.toMapped.zone = ip.zone
  unfold IPv6.zone
  rw [IPv6.mapped?_toMapped]

/-! ## Numbers -/

/-- The number of an address, by its two halves. -/
theorem IPv4.toNat_eq (ip : IPv4) :
    ip.toNat = (ip.a.toNat * 256 + ip.b.toNat) * 65536
      + (ip.c.toNat * 256 + ip.d.toNat) := by
  simp only [IPv4.toNat, IPv4.octets, List.foldl_cons, List.foldl_nil]
  omega

theorem IPv4.toNat_lt (ip : IPv4) : ip.toNat < 2 ^ 32 := by
  have ha := ip.a.toNat_lt
  have hb := ip.b.toNat_lt
  have hc := ip.c.toNat_lt
  have hd := ip.d.toNat_lt
  rw [IPv4.toNat_eq]
  omega

/-- **The number of the carrying address** is that of the address behind the
lead. -/
theorem IPv4.toNat_toMapped (ip : IPv4) :
    ip.toMapped.toNat = 0xffff * 2 ^ 32 + ip.toNat := by
  rw [IPv4.toNat_eq]
  simp only [IPv6.toNat, IPv6.groups, IPv4.toMapped, List.foldl_cons, List.foldl_nil,
    toNat_group, UInt16.toNat_zero, UInt16.reduceToNat]
  omega

/-! ## Writing and reading -/

namespace IPv4

/-- An octet in decimal is read back. -/
theorem octet?_toDigits (o : UInt8) : octet? (Nat.toDigits 10 o.toNat) = some o := by
  have hall : ∀ n : Fin 256, octet? (Nat.toDigits 10 n.1) = some (UInt8.ofNat n.1) := by
    decide +kernel
  have ho := hall ⟨o.toNat, o.toNat_lt⟩
  rwa [UInt8.ofNat_toNat] at ho

/-- The decimal digits of an octet are digits. -/
theorem isDigit_of_mem_toDigits {o : UInt8} {c : Char}
    (h : c ∈ Nat.toDigits 10 o.toNat) : c.isDigit = true :=
  Nat.isDigit_of_mem_toDigits (by decide) (by decide) h

theorem toChars_eq (ip : IPv4) :
    ip.toChars = Nat.toDigits 10 ip.a.toNat ++ '.' :: (Nat.toDigits 10 ip.b.toNat
      ++ '.' :: (Nat.toDigits 10 ip.c.toNat ++ '.' :: Nat.toDigits 10 ip.d.toNat)) := by
  simp [toChars, octets, List.intercalate]

/-- An address is written with digits and dots. -/
theorem isDigit_or_dot_of_mem_toChars {ip : IPv4} {c : Char} (h : c ∈ ip.toChars) :
    c.isDigit = true ∨ c = '.' := by
  rw [toChars_eq] at h
  simp only [List.mem_append, List.mem_cons] at h
  rcases h with h | rfl | h | rfl | h | rfl | h
  · exact Or.inl (isDigit_of_mem_toDigits h)
  · exact Or.inr rfl
  · exact Or.inl (isDigit_of_mem_toDigits h)
  · exact Or.inr rfl
  · exact Or.inl (isDigit_of_mem_toDigits h)
  · exact Or.inr rfl
  · exact Or.inl (isDigit_of_mem_toDigits h)

/-- A character that is neither a digit nor a dot does not occur. -/
theorem ne_of_mem_toChars {ip : IPv4} {c x : Char} (h : c ∈ ip.toChars)
    (hdigit : x.isDigit = false) (hdot : x ≠ '.') : c ≠ x := by
  rintro rfl
  rcases isDigit_or_dot_of_mem_toChars h with hc | rfl
  · rw [hdigit] at hc
    cases hc
  · exact hdot rfl

/-- **What is written is read back.** -/
theorem parse?_toChars (ip : IPv4) : parse? ip.toChars = some ip := by
  have hpiece (o : UInt8) : ∀ x ∈ Nat.toDigits 10 o.toNat, (x == '.') = false := by
    intro x hx
    rw [beq_eq_false_iff_ne]
    rintro rfl
    cases isDigit_of_mem_toDigits hx
  have hsplit : splitAt (· == '.') ip.toChars
      = [Nat.toDigits 10 ip.a.toNat, Nat.toDigits 10 ip.b.toNat,
        Nat.toDigits 10 ip.c.toNat, Nat.toDigits 10 ip.d.toNat] := by
    rw [toChars_eq, splitAt_append_cons (hpiece _) rfl, splitAt_append_cons (hpiece _) rfl,
      splitAt_append_cons (hpiece _) rfl, splitAt_of_forall (hpiece _)]
  unfold parse?
  rw [hsplit]
  dsimp only
  rw [octet?_toDigits, octet?_toDigits, octet?_toDigits, octet?_toDigits]
  rfl

/-- With something long in front it is no longer an address. -/
theorem parse?_append_toChars {lead : List Char} (hlead : ∀ x ∈ lead, x ≠ '.')
    (hlong : 3 < lead.length) (ip : IPv4) : parse? (lead ++ ip.toChars) = none := by
  have hpiece : ∀ x ∈ lead ++ Nat.toDigits 10 ip.a.toNat, (x == '.') = false := by
    intro x hx
    rw [beq_eq_false_iff_ne]
    rcases List.mem_append.mp hx with hx | hx
    · exact hlead x hx
    · rintro rfl
      cases isDigit_of_mem_toDigits hx
  have hoctet : octet? (lead ++ Nat.toDigits 10 ip.a.toNat) = none := by
    unfold octet?
    rw [if_neg]
    rw [Bool.and_eq_true, decide_eq_true_eq, List.length_append]
    omega
  unfold parse?
  rw [toChars_eq, ← List.append_assoc, splitAt_append_cons hpiece rfl]
  split
  · next hsplit =>
    rw [← (List.cons.inj hsplit).1, hoctet]
    rfl
  · rfl

end IPv4

namespace IPv6

theorem toChars_toMapped (ip : IPv4) :
    ip.toMapped.toChars = "::ffff:".toList ++ ip.toChars := by
  unfold toChars
  rw [mapped?_toMapped]

/-- **The carrying address is read back**, with its tail in octets. -/
theorem parse?_toChars_toMapped (ip : IPv4) :
    parse? ip.toMapped.toChars = some ip.toMapped := by
  -- a dot is no hexadecimal digit, so the tail cannot be taken for a group
  have hgroup : group? ip.toChars = none := by
    unfold group?
    rw [if_neg]
    intro h
    rw [Bool.and_eq_true, List.all_eq_true] at h
    have hdot : '.' ∈ ip.toChars := by
      rw [IPv4.toChars_eq]
      exact List.mem_append_right _ List.mem_cons_self
    have := h.2 '.' hdot
    revert this
    decide
  have htail : ∀ x ∈ ip.toChars, (x == ':') = false := fun x hx =>
    beq_eq_false_iff_ne.mpr (IPv4.ne_of_mem_toChars hx (by decide) (by decide))
  have hlead : ∀ x ∈ ['f', 'f', 'f', 'f'], (x == ':') = false := by simp
  have hgroups : groups? true ("ffff:".toList ++ ip.toChars) = some (0xffff :: ip.groups) := by
    unfold groups?
    rw [if_neg (by simp)]
    rw [show "ffff:".toList ++ ip.toChars = ['f', 'f', 'f', 'f'] ++ ':' :: ip.toChars from rfl,
      splitAt_append_cons hlead rfl, splitAt_of_forall htail]
    unfold pieces? pieces?
    rw [hgroup, IPv4.parse?_toChars]
    rfl
  rw [toChars_toMapped]
  unfold parse?
  rw [show gap? ("::ffff:".toList ++ ip.toChars) = some ([], "ffff:".toList ++ ip.toChars)
    from rfl]
  dsimp only
  rw [hgroups]
  rfl

end IPv6

/-! ## The two forms -/

/-- **The forms of an address**: itself, and the one that carries it. -/
def IPv4.forms (ip : IPv4) : List Address := [.v4 ip, .v6 ip.toMapped]

namespace Address

/-- The forms are written without blanks and commas. -/
theorem mem_toChars_form {ip : IPv4} {a : Address} (ha : a ∈ ip.forms) {c : Char}
    (hc : c ∈ a.toChars) : isBlank c = false ∧ c ≠ ',' := by
  have hplain (h : c ∈ ip.toChars) : isBlank c = false ∧ c ≠ ',' := by
    refine ⟨?_, IPv4.ne_of_mem_toChars h (by decide) (by decide)⟩
    rcases IPv4.isDigit_or_dot_of_mem_toChars h with h | rfl
    · exact isBlank_of_isDigit h
    · decide
  have hlead : ∀ x ∈ [':', ':', 'f', 'f', 'f', 'f', ':'], isBlank x = false ∧ x ≠ ',' := by
    simp [isBlank]
  rcases List.mem_pair.mp ha with rfl | rfl
  · exact hplain hc
  · rw [show (Address.v6 ip.toMapped).toChars = _ from IPv6.toChars_toMapped ip] at hc
    exact (List.mem_append.mp hc).elim (hlead c) hplain

/-- **A form that is written is read as that form.** -/
theorem ofHostChars?_form {ip : IPv4} {a : Address} (ha : a ∈ ip.forms) :
    ofHostChars? a.toChars = some a := by
  have hendpoint : Endpoint.parseChars? a.toChars = none := by
    rcases List.mem_pair.mp ha with rfl | rfl
    · have hcolon : ∀ x ∈ ip.toChars, (x == ':') = false := fun x hx =>
        beq_eq_false_iff_ne.mpr (IPv4.ne_of_mem_toChars hx (by decide) (by decide))
      show Endpoint.parseChars? ip.toChars = none
      unfold Endpoint.parseChars?
      split
      · next rest hs =>
        -- no address begins with a bracket
        exact absurd rfl (IPv4.ne_of_mem_toChars (hs ▸ List.mem_cons_self) rfl (by decide))
      · rw [cutAt?_of_forall hcolon]
        rfl
    · show Endpoint.parseChars? ip.toMapped.toChars = none
      rw [IPv6.toChars_toMapped]
      rfl
  have hparse : parseChars? a.toChars = some a := by
    rcases List.mem_pair.mp ha with rfl | rfl
    · show parseChars? ip.toChars = _
      unfold parseChars?
      rw [IPv4.parse?_toChars]
    · show parseChars? ip.toMapped.toChars = _
      unfold parseChars?
      rw [IPv6.parse?_toChars_toMapped, IPv6.toChars_toMapped,
        IPv4.parse?_append_toChars (by simp) (by decide)]
      rfl
  unfold ofHostChars?
  dsimp only
  rw [trimChars_of_forall fun c hc => (mem_toChars_form ha hc).1, hendpoint]
  dsimp only
  rw [hparse]

end Address

end Gatehouse
