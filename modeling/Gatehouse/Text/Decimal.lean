/-!
# Natural numbers written in decimal

A number is read only when it is all digits and does not pass its bound;
`Decimal.digits?` reads plain digits, and `Decimal.unsigned?` allows one
leading `+` before them. Leading zeros are accepted by both, and neither
accepts the empty text.
-/

namespace Gatehouse.Decimal

/-- The number that a list of digits writes, the most significant digit
first. -/
def value (ds : List Char) : Nat :=
  Nat.ofDigitChars 10 ds 0

/-- Reads one or more digits whose number is at most `bound`. -/
def digits? (bound : Nat) (s : List Char) : Option Nat :=
  if s.isEmpty || !s.all Char.isDigit then none
  else if value s ≤ bound then some (value s) else none

/-- Reads digits after an optional plus sign. -/
def unsigned? (bound : Nat) : List Char → Option Nat
  | '+' :: s => digits? bound s
  | s => digits? bound s

theorem digits?_le {bound n : Nat} {s : List Char}
    (h : digits? bound s = some n) : n ≤ bound := by
  unfold digits? at h
  split at h
  · simp at h
  · split at h
    · simp_all
    · simp at h

/-- What decimal notation writes is read back. -/
theorem digits?_toDigits {bound n : Nat} (h : n ≤ bound) :
    digits? bound (Nat.toDigits 10 n) = some n := by
  have hv : value (Nat.toDigits 10 n) = n :=
    Nat.ofDigitChars_toDigits (by decide) (by decide)
  have hd : (Nat.toDigits 10 n).all Char.isDigit = true :=
    List.all_eq_true.2 fun c hc =>
      Nat.isDigit_of_mem_toDigits (by decide) (by decide) hc
  have hne : (Nat.toDigits 10 n).isEmpty = false := by
    cases hs : Nat.toDigits 10 n with
    | nil => exact absurd (congrArg List.length hs) (by simp)
    | cons => rfl
  simp [digits?, hv, hd, hne, h]

/-- The largest number of 64 bits. -/
def max64 : Nat := 18446744073709551615

end Gatehouse.Decimal
