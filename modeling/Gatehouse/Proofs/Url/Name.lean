import Mathlib
import Gatehouse.Proofs.Address.Written
import Gatehouse.Proofs.Text
import Gatehouse.Url.Idna.Name

/-!
# The characters of a host name

Between a host name as it is written and its form in ASCII lie the mapping of
characters, their composition, and the encoding of labels in both directions. None of
it is looked into here. What matters to those who put the name behind a scheme or in
front of a port is which characters it can have, and this is decided at two places:
forbidden characters are refused after the mapping, and encoding writes nothing but
letters, digits and hyphens, apart from the ASCII characters that are there already.
A label that comes encoded is decoded in between, and that brings in nothing forbidden
either, because what an insertion brings in lies beyond ASCII.

So every character of a name in ASCII is an ASCII character that is not forbidden
(`Idna.isHostChar_of_toAscii?`).
-/

namespace Gatehouse.Url

open Text Idna

/-- Whether a character may stand in a host name in ASCII. -/
def isHostChar (c : Char) : Bool := decide (c.toNat < 128) && !isForbidden c

theorem isHostChar_iff {c : Char} :
    isHostChar c = true ↔ c.toNat < 128 ∧ isForbidden c = false := by
  simp [isHostChar]

/-- Nothing beyond ASCII is forbidden. -/
theorem isForbidden_of_le {c : Char} (h : 128 ≤ c.toNat) : isForbidden c = false := by
  have hsigns : ∀ x ∈ "%#/:<>?@[\\]^|".toList, x.toNat < 128 := by simp
  have hsign : "%#/:<>?@[\\]^|".toList.contains c = false := by
    rw [Bool.eq_false_iff, ne_eq, List.contains_iff_mem]
    exact fun hmem => absurd (hsigns c hmem) (Nat.not_lt.mpr h)
  unfold isForbidden
  rw [hsign]
  simp only [Bool.or_false, Bool.or_eq_false_iff, decide_eq_false_iff_not, beq_eq_false_iff_ne]
  omega

namespace Punycode

/-! ## Encoding -/

theorem threshold_le (position bias : Nat) : threshold position bias ≤ 26 := by
  unfold threshold
  split
  · decide
  · split <;> omega

theorem isHostChar_digit {n : Nat} (h : n < 36) : isHostChar (digit n) = true :=
  (by decide : ∀ d : Fin 36, isHostChar (digit d.1) = true) ⟨n, h⟩

/-- A number is written with digits. -/
theorem isHostChar_of_mem_writeNumber {bias position n : Nat} :
    ∀ c ∈ writeNumber bias position n, isHostChar c = true := by
  induction position, n using writeNumber.induct bias with
  | case1 position n t hlt =>
    intro c hc
    have ht := threshold_le position bias
    rw [writeNumber, if_pos hlt, List.mem_singleton] at hc
    rw [hc]
    exact isHostChar_digit (by omega)
  | case2 position n t hge ih =>
    intro c hc
    have ht := threshold_le position bias
    have hdigit := Nat.mod_lt (n - t) (show 0 < 36 - t by omega)
    rw [writeNumber, if_neg hge] at hc
    rcases List.mem_cons.mp hc with rfl | hc
    · exact isHostChar_digit (show t + (n - t) % (36 - t) < 36 by omega)
    · exact ih c hc

/-- **Inserting a character** adds digits to what is written. -/
theorem Coder.isHostChar_of_mem_pass {basic code : Nat} {k : Coder} (c : Char)
    (hk : ∀ x ∈ k.out, isHostChar x = true) :
    ∀ x ∈ (k.pass basic code c).out, isHostChar x = true := by
  unfold pass
  split
  · exact hk
  · split
    · intro x hx
      rcases List.mem_append.mp hx with hx | hx
      · exact isHostChar_of_mem_writeNumber x (List.mem_reverse.mp hx)
      · exact hk x hx
    · exact hk

theorem isHostChar_of_mem_insertCodes {input : List Char} {basic next : Nat} {k : Coder}
    {codes : List Nat} (hk : ∀ x ∈ k.out, isHostChar x = true) :
    ∀ x ∈ (insertCodes input basic next k codes).out, isHostChar x = true := by
  have hpass (code : Nat) (cs : List Char) : ∀ k : Coder,
      (∀ x ∈ k.out, isHostChar x = true) →
      ∀ x ∈ (cs.foldl (Coder.pass basic code) k).out, isHostChar x = true := by
    induction cs with
    | nil => exact fun _ hk => hk
    | cons c cs ih => exact fun k hk => ih _ (Coder.isHostChar_of_mem_pass c hk)
  induction codes generalizing next k with
  | nil => exact hk
  | cons code rest ih => exact ih (hpass code input _ hk)

/-- **An encoded label** has digits, hyphens and the ASCII characters of the label. -/
theorem isHostChar_of_mem_encode {s : List Char} (hs : ∀ c ∈ s, isForbidden c = false) :
    ∀ c ∈ encode s, isHostChar c = true := by
  have hbasic : ∀ c ∈ s.filter (·.toNat < 128), isHostChar c = true := by
    intro c hc
    obtain ⟨hmem, hascii⟩ := List.mem_filter.mp hc
    exact isHostChar_iff.mpr ⟨of_decide_eq_true hascii, hs c hmem⟩
  intro c hc
  unfold encode at hc
  refine isHostChar_of_mem_insertCodes (fun x hx => ?_) c (List.mem_reverse.mp hc)
  have hx := List.mem_reverse.mp hx
  split at hx
  · cases hx
  · rcases List.mem_append.mp hx with hx | hx
    · exact hbasic x hx
    · rw [List.mem_singleton.mp hx]
      decide

/-! ## Decoding -/

/-- **What an insertion brings in** lies beyond ASCII. -/
theorem isForbidden_of_mem_insertAll? {code index bias : Nat} {out s t : List Char}
    (hcode : 128 ≤ code) (hout : ∀ c ∈ out, isForbidden c = false)
    (h : insertAll? code index bias out s = some t) : ∀ c ∈ t, isForbidden c = false := by
  fun_induction insertAll? code index bias out s with
  | case1 code index bias out s hempty =>
    cases h
    exact hout
  | case2 => cases h
  | case3 code index bias out s hempty delta rest hread hshort count total code' place hin ih =>
    have hcode' : 128 ≤ code' := Nat.le_trans hcode (Nat.le_add_right code _)
    have hvalid : code'.isValidChar := by
      simp only [Bool.and_eq_true, decide_eq_true_eq] at hin
      exact hin.2
    refine ih hcode' (fun c hc => ?_) h
    rcases List.mem_append.mp hc with hc | hc
    · exact hout c (List.mem_of_mem_take hc)
    · rcases List.mem_cons.mp hc with rfl | hc
      · exact isForbidden_of_le (by rw [Char.toNat_ofNat, if_pos hvalid]; exact hcode')
      · exact hout c (List.mem_of_mem_drop hc)
  | case4 => cases h

/-- A decoded label has no forbidden character that it has not had before. -/
theorem isForbidden_of_mem_decode? {s t : List Char} (hs : ∀ c ∈ s, isForbidden c = false)
    (h : decode? s = some t) : ∀ c ∈ t, isForbidden c = false := by
  unfold decode? at h
  dsimp only at h
  split at h
  · exact isForbidden_of_mem_insertAll? (Nat.le_refl 128) (by simp) h
  · exact isForbidden_of_mem_insertAll? (Nat.le_refl 128)
      (fun c hc => hs c (List.mem_of_mem_take hc)) h

end Punycode

namespace Idna

/-! ## Labels -/

theorem isForbidden_of_mem_readLabel? {label t : List Char}
    (hlabel : ∀ c ∈ label, isForbidden c = false) (h : readLabel? label = some t) :
    ∀ c ∈ t, isForbidden c = false := by
  unfold readLabel? at h
  split at h
  · next encoded hlead =>
    -- the rules that a decoded label has to obey do not matter here
    simp only [decodeLabel?, Option.bind_eq_bind, Option.bind_eq_some_iff, Option.pure_def,
      Option.some.injEq] at h
    obtain ⟨-, -, label', hdecode, -, -, -, -, rfl⟩ := h
    refine Punycode.isForbidden_of_mem_decode? (fun c hc => hlabel c ?_) hdecode
    rw [eq_append_of_afterLead? hlead]
    exact List.mem_append_right _ hc
  · cases h
    exact hlabel

theorem isHostChar_of_mem_writeLabel {label : List Char}
    (hlabel : ∀ c ∈ label, isForbidden c = false) :
    ∀ c ∈ writeLabel label, isHostChar c = true := by
  intro c hc
  unfold writeLabel at hc
  split at hc
  · next hascii =>
    exact isHostChar_iff.mpr
      ⟨of_decide_eq_true (List.all_eq_true.mp hascii c hc), hlabel c hc⟩
  · rcases List.mem_append.mp hc with hc | hc
    · exact List.all_eq_true.mp (by decide +kernel : encodedLead.all isHostChar = true) c hc
    · exact Punycode.isHostChar_of_mem_encode hlabel c hc

/-! ## Names -/

/-- What comes out of a list of readings has been read. -/
theorem exists_mem_of_mapM {α β : Type} {f : α → Option β} {xs : List α} {ys : List β}
    (h : xs.mapM f = some ys) {y : β} (hy : y ∈ ys) : ∃ x ∈ xs, f x = some y := by
  induction xs generalizing ys with
  | nil =>
    cases h
    cases hy
  | cons x xs ih =>
    simp only [List.mapM_cons, Option.bind_eq_bind, Option.bind_eq_some_iff, Option.pure_def,
      Option.some.injEq] at h
    obtain ⟨z, hz, zs, hzs, rfl⟩ := h
    rcases List.mem_cons.mp hy with rfl | hy
    · exact ⟨x, List.mem_cons_self, hz⟩
    · obtain ⟨x', hx', hread⟩ := ih hzs hy
      exact ⟨x', List.mem_cons_of_mem x hx', hread⟩

/-- Whatever is mapped and composed, the labels have nothing forbidden. -/
theorem isForbidden_of_mem_labels? {s : List Char} {labels : List (List Char)}
    (h : labels? s = some labels) : ∀ l ∈ labels, ∀ c ∈ l, isForbidden c = false := by
  simp only [labels?, Option.bind_eq_bind, Option.bind_eq_some_iff, Option.pure_def,
    Option.some.injEq, Option.guard_eq_some'] at h
  obtain ⟨mapped, -, -, hclean, _, hread, -, -, -, -, rfl⟩ := h
  rw [Bool.not_eq_true', List.any_eq_false] at hclean
  intro l hl
  obtain ⟨piece, hpiece, hl⟩ := exists_mem_of_mapM hread hl
  refine isForbidden_of_mem_readLabel? (fun c hc => ?_) hl
  exact Bool.eq_false_iff.mpr (hclean c (mem_of_mem_splitAt hpiece hc))

/-- **A host name in ASCII** has ASCII characters that are not forbidden. -/
theorem isHostChar_of_toAscii? {s t : List Char} (h : toAscii? s = some t) :
    ∀ c ∈ t, isHostChar c = true := by
  unfold toAscii? at h
  split at h
  · obtain ⟨labels, hlabels, rfl⟩ := Option.map_eq_some_iff.mp h
    refine forall_mem_intercalate (List.all_eq_true.mp rfl) fun piece hpiece => ?_
    obtain ⟨label, hlabel, rfl⟩ := List.mem_map.mp hpiece
    exact isHostChar_of_mem_writeLabel (isForbidden_of_mem_labels? hlabels label hlabel)
  · next htables =>
    split at h
    · cases h
    · next hforbidden =>
      cases h
      simp only [needsTables, Bool.or_eq_true, not_or, Bool.not_eq_true, List.any_eq_false,
        decide_eq_true_eq, Nat.not_le] at htables
      rw [Bool.not_eq_true, List.any_eq_false] at hforbidden
      intro c hc
      obtain ⟨x, hx, rfl⟩ := List.mem_map.mp hc
      have hlower : ∀ n : Fin 128, isForbidden (Char.ofNat n.1) = false →
          isHostChar (Char.ofNat n.1).toLower = true := by
        decide +kernel
      exact forall_ascii (P := fun x => isForbidden x = false → isHostChar x.toLower = true)
        hlower (htables.1 x hx) (Bool.eq_false_iff.mpr (hforbidden x hx))

end Idna

end Gatehouse.Url
