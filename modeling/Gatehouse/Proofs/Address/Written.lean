import Mathlib
import Gatehouse.Address.Printer
import Gatehouse.Http.Headers
import Gatehouse.Proofs.Bytes

/-!
# An address can stand in a header

An address is written with hexadecimal digits, colons and dots, whatever its
version and whichever of the shortened forms is taken. All of them are visible
ASCII, so the text of an address is always the value of a header, and setting
a header to an address never fails.
-/

namespace Gatehouse

open Text

/-! ## Characters of addresses -/

/-- Whether a character occurs in the text of an address. -/
def isAddressChar (c : Char) : Bool := isHex c || c == ':' || c == '.'

/-- They lie between the dot and the last digit, among visible ASCII. -/
theorem toNat_of_isAddressChar {c : Char} (h : isAddressChar c = true) :
    46 ≤ c.toNat ∧ c.toNat ≤ 102 := by
  simp only [isAddressChar, Bool.or_eq_true, beq_iff_eq] at h
  rcases h with (h | rfl) | rfl
  · unfold isHex hexValue? at h
    split at h
    · next hdigit =>
      have hzero : '0'.toNat = 48 := rfl
      have hnine : '9'.toNat = 57 := rfl
      rw [Char.isDigit_iff_toNat] at hdigit
      omega
    · split at h
      · next hletter =>
        simp only [Bool.and_eq_true, decide_eq_true_eq] at hletter
        omega
      · split at h
        · next hcapital =>
          simp only [Bool.and_eq_true, decide_eq_true_eq] at hcapital
          omega
        · cases h
  · decide
  · decide

/-- What holds of every digit of a base holds of the digits of a number. -/
theorem forall_mem_toDigits {base n : Nat} {P : Char → Prop} (hbase : 1 < base)
    (hP : ∀ d < base, P (Nat.digitChar d)) : ∀ c ∈ Nat.toDigits base n, P c := by
  induction n using Nat.strongRecOn with
  | _ n ih =>
    intro c h
    rw [Nat.toDigits_eq_if hbase] at h
    split at h
    · next hlt =>
      rw [List.mem_singleton] at h
      exact h ▸ hP n hlt
    · next hge =>
      have hpos : 0 < n := Nat.lt_of_lt_of_le (Nat.zero_lt_of_lt hbase) (Nat.not_lt.mp hge)
      rcases List.mem_append.mp h with h | h
      · exact ih (n / base) (Nat.div_lt_self hpos hbase) c h
      · rw [List.mem_singleton] at h
        exact h ▸ hP (n % base) (Nat.mod_lt n (Nat.zero_lt_of_lt hbase))

/-- The digits of a number are such characters, in every base up to sixteen. -/
theorem isAddressChar_of_mem_toDigits {base n : Nat} {c : Char} (hbase : 1 < base)
    (hbase' : base ≤ 16) (h : c ∈ Nat.toDigits base n) : isAddressChar c = true := by
  have hall : ∀ d : Fin 16, isAddressChar (Nat.digitChar d.1) = true := by decide
  have hdigit (d : Nat) (hd : d < base) : isAddressChar (Nat.digitChar d) = true :=
    hall ⟨d, Nat.lt_of_lt_of_le hd hbase'⟩
  exact forall_mem_toDigits (P := (isAddressChar · = true)) hbase hdigit c h

/-- What stands between separators, and the separators, are all there is. -/
theorem forall_mem_intercalate {α : Type} {P : α → Prop} {sep : List α}
    {pieces : List (List α)} (hsep : ∀ x ∈ sep, P x)
    (hpieces : ∀ piece ∈ pieces, ∀ x ∈ piece, P x) :
    ∀ x ∈ List.intercalate sep pieces, P x := by
  induction pieces with
  | nil => exact fun x hx => absurd hx List.not_mem_nil
  | cons piece rest ih =>
    have hhead := hpieces piece List.mem_cons_self
    have htail := ih fun p hp => hpieces p (List.mem_cons_of_mem piece hp)
    cases rest with
    | nil =>
      rw [List.intercalate_singleton]
      exact hhead
    | cons p ps =>
      rw [List.intercalate_cons_cons]
      intro x hx
      rcases List.mem_append.mp hx with hx | hx
      · exact (List.mem_append.mp hx).elim (hhead x) (hsep x)
      · exact htail x hx

theorem IPv4.isAddressChar_of_mem {ip : IPv4} :
    ∀ c ∈ ip.toChars, isAddressChar c = true := by
  refine forall_mem_intercalate (List.all_eq_true.mp rfl) fun piece hpiece c hc => ?_
  obtain ⟨o, -, rfl⟩ := List.mem_map.mp hpiece
  exact isAddressChar_of_mem_toDigits (by decide) (by decide) hc

theorem IPv6.isAddressChar_of_mem_groups {gs : List UInt16} :
    ∀ c ∈ groupChars gs, isAddressChar c = true := by
  refine forall_mem_intercalate (List.all_eq_true.mp rfl) fun piece hpiece c hc => ?_
  obtain ⟨g, -, rfl⟩ := List.mem_map.mp hpiece
  exact isAddressChar_of_mem_toDigits (by decide) (by decide) hc

theorem IPv6.isAddressChar_of_mem_shortChars {ip : IPv6} :
    ∀ c ∈ ip.shortChars, isAddressChar c = true := by
  intro c hc
  unfold shortChars at hc
  dsimp only at hc
  split at hc
  · -- two colons stand for the groups that are left out
    rcases List.mem_append.mp hc with hc | hc
    · rcases List.mem_append.mp hc with hc | hc
      · exact isAddressChar_of_mem_groups c hc
      · exact List.all_eq_true.mp (by decide : [':', ':'].all isAddressChar = true) c hc
    · exact isAddressChar_of_mem_groups c hc
  · exact isAddressChar_of_mem_groups c hc

theorem IPv6.isAddressChar_of_mem {ip : IPv6} :
    ∀ c ∈ ip.toChars, isAddressChar c = true := by
  intro c hc
  unfold toChars at hc
  split at hc
  · next v4 _ =>
    rcases List.mem_append.mp hc with hc | hc
    · exact List.all_eq_true.mp (by decide : "::ffff:".toList.all isAddressChar = true) c hc
    · exact IPv4.isAddressChar_of_mem c hc
  · exact isAddressChar_of_mem_shortChars c hc

/-- **An address is written with digits, colons and dots.** -/
theorem Address.isAddressChar_of_mem {a : Address} :
    ∀ c ∈ a.toChars, isAddressChar c = true := by
  cases a with
  | v4 ip => exact IPv4.isAddressChar_of_mem
  | v6 ip => exact IPv6.isAddressChar_of_mem

/-! ## Header values -/

namespace Http

/-- A character that is written as one byte which a header value may hold. -/
theorem isValueByte_of_mem_utf8EncodeChar {c : Char} {b : UInt8} (hlow : 32 ≤ c.toNat)
    (hhigh : c.toNat < 127) (hb : b ∈ String.utf8EncodeChar c) : isValueByte b = true := by
  have hval := Bytes.toNat_of_mem_utf8EncodeChar (Nat.le_of_lt hhigh) hb
  unfold isValueByte
  rw [hval]
  simp only [Bool.or_eq_true, Bool.and_eq_true, decide_eq_true_eq, bne_iff_ne]
  omega

/-- A text of visible ASCII and spaces is a header value. -/
theorem fieldValue?_ofString {cs : List Char}
    (h : ∀ c ∈ cs, 32 ≤ c.toNat ∧ c.toNat < 127) :
    fieldValue? (Bytes.ofString (String.ofList cs))
      = some (Bytes.ofString (String.ofList cs)) := by
  have hall : (Bytes.ofString (String.ofList cs)).all isValueByte = true := by
    rw [Bytes.ofString_ofList, List.all_eq_true]
    intro b hb
    obtain ⟨c, hc, hb⟩ := List.mem_flatMap.mp hb
    exact isValueByte_of_mem_utf8EncodeChar (h c hc).1 (h c hc).2 hb
  unfold fieldValue?
  rw [if_pos hall]

/-- **The text of an address is a header value.** -/
theorem fieldValue?_toText (a : Address) :
    fieldValue? (Bytes.ofString a.toText) = some (Bytes.ofString a.toText) := by
  refine fieldValue?_ofString fun c hc => ?_
  obtain ⟨hlow, hhigh⟩ := toNat_of_isAddressChar (Address.isAddressChar_of_mem c hc)
  exact ⟨Nat.le_trans (by decide) hlow, Nat.lt_of_le_of_lt hhigh (by decide)⟩

end Http

end Gatehouse
