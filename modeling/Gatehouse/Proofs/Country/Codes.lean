import Mathlib
import Gatehouse.Country.Policy

/-!
# The codes of a configured list

`codeSet` turns the entries of a list into a sorted list of codes by
inserting one after the other. What a policy asks of it is only which codes
it has, and that is said here without the sorting: a code of the list is
what some entry reads once it is trimmed and put into capitals, unless
nothing is left of it (`mem_codeSet`).
-/

namespace Gatehouse.Text

/-- Two texts that no code point tells apart are the same. -/
theorem compareCodes_eq_iff {s t : List Char} :
    compareCodes s t = .eq ↔ s = t := by
  induction s generalizing t with
  | nil => cases t <;> simp [compareCodes]
  | cons a s ih =>
    cases t with
    | nil => simp [compareCodes]
    | cons b t =>
      have hchar : a.toNat = b.toNat ↔ a = b := Char.toNat_inj
      unfold compareCodes
      split
      · next h => simp [← hchar, Nat.ne_of_lt h]
      · next h =>
        split
        · next h' => simp [← hchar, Nat.ne_of_gt h']
        · next h' =>
          rw [ih, List.cons.injEq, ← hchar]
          exact (and_iff_right (by omega)).symm

end Gatehouse.Text

namespace Gatehouse.Country

open Text

/-- **A code of a configured list**: what one of its entries reads, trimmed
and in capitals. A blank entry stands for no code. -/
def IsCode (entries : List String) (code : String) : Prop :=
  code ≠ "" ∧ ∃ e ∈ entries, upper (trim e) = code

/-- Putting a code into a set adds that code and nothing else. -/
theorem mem_insertCode {x code : String} {set : List String} :
    x ∈ insertCode code set ↔ x = code ∨ x ∈ set := by
  induction set with
  | nil => simp [insertCode]
  | cons c cs ih =>
    unfold insertCode
    split
    · exact List.mem_cons
    · next h =>
      have hc : code = c := String.toList_inj.mp (compareCodes_eq_iff.mp h)
      rw [hc, List.mem_cons, or_self_left]
    · rw [List.mem_cons, List.mem_cons, ih]
      exact or_left_comm

/-- Putting several codes into a set adds those codes and nothing else. -/
theorem mem_foldl_insertCode {x : String} {codes set : List String} :
    x ∈ codes.foldl (fun set code => insertCode code set) set
      ↔ x ∈ codes ∨ x ∈ set := by
  induction codes generalizing set with
  | nil => simp
  | cons c cs ih =>
    rw [List.foldl_cons, ih, mem_insertCode, List.mem_cons, or_assoc]
    exact or_left_comm

/-- **The set of a configured list has exactly its codes.** -/
theorem mem_codeSet {entries : List String} {code : String} :
    code ∈ codeSet entries ↔ IsCode entries code := by
  unfold codeSet IsCode
  rw [mem_foldl_insertCode, List.mem_filter, List.mem_map]
  simp [and_comm]

/-- A configured list counts as given when it has a code. -/
theorem codeSet_ne_nil_iff {entries : List String} :
    codeSet entries ≠ [] ↔ ∃ code, IsCode entries code := by
  constructor
  · intro h
    obtain ⟨code, hcode⟩ := List.exists_mem_of_ne_nil _ h
    exact ⟨code, mem_codeSet.mp hcode⟩
  · rintro ⟨code, hcode⟩
    exact List.ne_nil_of_mem (mem_codeSet.mpr hcode)

end Gatehouse.Country
