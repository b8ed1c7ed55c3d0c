import Gatehouse.Proofs.Address.Carried
import Gatehouse.Proofs.Address.Written

/-!
# The groups of an address, written and read

An IPv6 address is written by its groups, and the first longest run of zero
groups is left out. A reader of such a text does not know how many groups are
missing. It finds the place, because nothing else puts two colons next to each
other (`IPv6.gap?_groupChars_append`), reads the groups on both sides, and takes
as many zeros as make eight.

That these are the zeros that were left out is all there is to reading an
address back (`IPv6.parse?_toChars`). The other direction is looser, since zeros
may be written out; here it is only said that what is read as an address has no
other characters than addresses have (`Address.isAddressChar_of_parseChars?`).
-/

namespace Gatehouse

open Text

/-! ## Hexadecimal digits -/

/-- A digit is read back. -/
theorem hexValue?_digitChar {d : Nat} (h : d < 16) : hexValue? (Nat.digitChar d) = some d :=
  (by decide : ∀ d : Fin 16, hexValue? (Nat.digitChar d.1) = some d.1) ⟨d, h⟩

theorem isHex_of_isDigit {c : Char} (h : c.isDigit = true) : isHex c = true := by
  unfold isHex hexValue?
  rw [if_pos h]
  rfl

theorem isAddressChar_of_isHex {c : Char} (h : isHex c = true) : isAddressChar c = true := by
  unfold isAddressChar
  rw [h]
  rfl

namespace IPv6

theorem hexValue_concat (s : List Char) (c : Char) :
    hexValue (s ++ [c]) = hexValue s * 16 + (hexValue? c).getD 0 := by
  unfold hexValue
  rw [List.foldl_append]
  rfl

/-- **A number is read back.** -/
theorem hexValue_toDigits (n : Nat) : hexValue (Nat.toDigits 16 n) = n := by
  induction n using Nat.strongRecOn with
  | _ n ih =>
    rw [Nat.toDigits_eq_if (by decide)]
    split
    · next hlt =>
      show 0 * 16 + (hexValue? (Nat.digitChar n)).getD 0 = n
      rw [hexValue?_digitChar hlt, Option.getD_some, Nat.zero_mul, Nat.zero_add]
    · next hge =>
      have hdigit : n % 16 < 16 := Nat.mod_lt n (by decide)
      rw [hexValue_concat, ih (n / 16) (by omega), hexValue?_digitChar hdigit,
        Option.getD_some]
      omega

theorem isHex_of_mem_toDigits {n : Nat} : ∀ c ∈ Nat.toDigits 16 n, isHex c = true :=
  forall_mem_toDigits (by decide) fun d hd => by
    unfold isHex
    rw [hexValue?_digitChar hd]
    rfl

theorem ne_colon_of_mem_toDigits {n : Nat} : ∀ c ∈ Nat.toDigits 16 n, c ≠ ':' := by
  rintro _ hc rfl
  cases isHex_of_mem_toDigits _ hc

/-! ## Groups between colons -/

/-- A group is read back. -/
theorem group?_toDigits (g : UInt16) : group? (Nat.toDigits 16 g.toNat) = some g := by
  have hlong : 1 ≤ (Nat.toDigits 16 g.toNat).length := Nat.length_toDigits_pos
  have hshort : (Nat.toDigits 16 g.toNat).length ≤ 4 :=
    (Nat.length_toDigits_le_iff (by decide) (by decide)).mpr g.toNat_lt
  have hhex : (Nat.toDigits 16 g.toNat).all isHex = true :=
    List.all_eq_true.mpr isHex_of_mem_toDigits
  unfold group?
  rw [hexValue_toDigits, hhex, decide_eq_true hlong, decide_eq_true hshort]
  simp

theorem pieces?_toDigits (tail : Bool) (gs : List UInt16) :
    pieces? tail (gs.map fun g => Nat.toDigits 16 g.toNat) = some gs := by
  induction gs with
  | nil => rfl
  | cons g gs ih =>
    cases gs with
    | nil =>
      rw [List.map_singleton]
      unfold pieces?
      rw [group?_toDigits]
    | cons g' gs =>
      show (do return (← group? (Nat.toDigits 16 g.toNat)) :: (← pieces? tail _)) = _
      rw [group?_toDigits, ih]
      rfl

theorem groupChars_singleton (g : UInt16) : groupChars [g] = Nat.toDigits 16 g.toNat :=
  List.intercalate_singleton

theorem groupChars_cons_cons (g g' : UInt16) (gs : List UInt16) :
    groupChars (g :: g' :: gs)
      = Nat.toDigits 16 g.toNat ++ ':' :: groupChars (g' :: gs) := by
  unfold groupChars
  rw [List.map_cons, List.map_cons, List.intercalate_cons_cons, List.append_assoc]
  rfl

/-- Groups begin with a digit. -/
theorem exists_groupChars_cons (g : UInt16) (gs : List UInt16) :
    ∃ c cs, groupChars (g :: gs) = c :: cs ∧ c ≠ ':' := by
  obtain ⟨c, cs, hcs⟩ := List.exists_cons_of_length_pos
    (Nat.length_toDigits_pos (b := 16) (n := g.toNat))
  have hc : c ≠ ':' := ne_colon_of_mem_toDigits c (hcs ▸ List.mem_cons_self)
  cases gs with
  | nil => exact ⟨c, cs, by rw [groupChars_singleton, hcs], hc⟩
  | cons g' gs => exact ⟨c, _, by rw [groupChars_cons_cons, hcs, List.cons_append], hc⟩

/-- **Groups are read back**, be there none of them or as many as there may. -/
theorem groups?_groupChars (tail : Bool) (gs : List UInt16) :
    groups? tail (groupChars gs) = some gs := by
  cases gs with
  | nil => rfl
  | cons g gs =>
    obtain ⟨c, cs, hcs, -⟩ := exists_groupChars_cons g gs
    have hsplit : splitAt (· == ':') (groupChars (g :: gs))
        = (g :: gs).map fun g => Nat.toDigits 16 g.toNat := by
      refine splitAt_intercalate rfl (List.cons_ne_nil _ _) fun p hp x hx => ?_
      obtain ⟨g, -, rfl⟩ := List.mem_map.mp hp
      exact beq_eq_false_iff_ne.mpr (ne_colon_of_mem_toDigits x hx)
    unfold groups?
    rw [hsplit, pieces?_toDigits, hcs]
    rfl

/-! ## The place where groups are missing -/

theorem gap?_cons_of_ne {c : Char} (hc : c ≠ ':') (s : List Char) :
    gap? (c :: s) = (gap? s).map fun p => (c :: p.1, p.2) := by
  cases s with
  | nil => rfl
  | cons d s => simp [gap?, hc]

theorem gap?_colon_cons {c : Char} (hc : c ≠ ':') (s : List Char) :
    gap? (':' :: c :: s) = (gap? (c :: s)).map fun p => (':' :: p.1, p.2) := by
  simp [gap?, hc]

theorem gap?_append_of_forall {piece : List Char} (hpiece : ∀ c ∈ piece, c ≠ ':')
    (s : List Char) : gap? (piece ++ s) = (gap? s).map fun p => (piece ++ p.1, p.2) := by
  induction piece with
  | nil => simp
  | cons c piece ih =>
    rw [List.cons_append, gap?_cons_of_ne (hpiece c List.mem_cons_self),
      ih fun x hx => hpiece x (List.mem_cons_of_mem c hx), Option.map_map]
    rfl

/-- **Groups leave no gap**: the first one is in what comes behind them. -/
theorem gap?_groupChars_append (gs : List UInt16) (s : List Char) :
    gap? (groupChars gs ++ s) = (gap? s).map fun p => (groupChars gs ++ p.1, p.2) := by
  induction gs with
  | nil => simp [groupChars]
  | cons g gs ih =>
    cases gs with
    | nil =>
      rw [groupChars_singleton]
      exact gap?_append_of_forall ne_colon_of_mem_toDigits s
    | cons g' gs =>
      -- the colon behind a group has a digit behind it
      obtain ⟨c, cs, hcs, hc⟩ := exists_groupChars_cons g' gs
      have hnext : gap? (':' :: (groupChars (g' :: gs) ++ s))
          = (gap? (groupChars (g' :: gs) ++ s)).map fun p => (':' :: p.1, p.2) := by
        rw [hcs]
        exact gap?_colon_cons hc _
      rw [groupChars_cons_cons, List.append_assoc, List.cons_append,
        gap?_append_of_forall ne_colon_of_mem_toDigits, hnext, ih, Option.map_map,
        Option.map_map]
      congr 1
      funext p
      simp

/-- What follows two colons, the groups before them, is behind the gap. -/
theorem gap?_groupChars_colons (gs : List UInt16) (after : List Char) :
    gap? (groupChars gs ++ [':', ':'] ++ after) = some (groupChars gs, after) := by
  rw [List.append_assoc, gap?_groupChars_append]
  show some (groupChars gs ++ [], after) = _
  rw [List.append_nil]

theorem gap?_groupChars (gs : List UInt16) : gap? (groupChars gs) = none := by
  have h := gap?_groupChars_append gs []
  rwa [List.append_nil] at h

/-! ## The run of zeros -/

theorem exists_zeroRun_eq (gs : List UInt16) :
    ∃ after, gs = List.replicate (zeroRun gs) 0 ++ after := by
  induction gs with
  | nil => exact ⟨[], rfl⟩
  | cons g gs ih =>
    unfold zeroRun
    split
    · next hg =>
      obtain ⟨after, h⟩ := ih
      refine ⟨after, ?_⟩
      rw [List.replicate_succ, List.cons_append, ← h, hg]
    · exact ⟨g :: gs, rfl⟩

/-- **The run that is left out** is where it is said to be, and is zeros. -/
theorem exists_longestRun_eq (gs : List UInt16) :
    ∃ before count after, longestRun gs = (before.length, count)
      ∧ gs = before ++ (List.replicate count 0 ++ after) := by
  induction gs with
  | nil => exact ⟨[], 0, [], rfl, rfl⟩
  | cons g gs ih =>
    obtain ⟨before, count, after, hrun, hgs⟩ := ih
    unfold longestRun
    rw [hrun]
    dsimp only
    split
    · obtain ⟨after, h⟩ := exists_zeroRun_eq (g :: gs)
      exact ⟨[], _, after, rfl, h⟩
    · exact ⟨g :: before, count, after, rfl, congrArg (g :: ·) hgs⟩

/-- **The two ways of writing an address**: with all its groups, or with a gap for a
run of at least two zeros. -/
theorem shortChars_cases (ip : IPv6) :
    ip.shortChars = groupChars ip.groups
    ∨ ∃ before count after, 2 ≤ count
      ∧ ip.groups = before ++ (List.replicate count 0 ++ after)
      ∧ before.length + (count + after.length) = 8
      ∧ ip.shortChars = groupChars before ++ [':', ':'] ++ groupChars after := by
  obtain ⟨before, count, after, hrun, hgroups⟩ := exists_longestRun_eq ip.groups
  unfold shortChars
  rw [hrun]
  dsimp only
  split
  · next hcount =>
    have htake : ip.groups.take before.length = before := by
      rw [hgroups, List.take_left]
    have hdrop : ip.groups.drop (before.length + count) = after := by
      rw [hgroups, ← List.drop_drop, List.drop_left,
        List.drop_left' (List.length_replicate ..)]
    have hlength : ip.groups.length = _ := congrArg List.length hgroups
    rw [List.length_append, List.length_append, List.length_replicate] at hlength
    exact Or.inr ⟨before, count, after, hcount, hgroups, hlength.symm, by rw [htake, hdrop]⟩
  · exact Or.inl rfl

/-- There are no more colons than groups. -/
theorem count_colon_groupChars_le (gs : List UInt16) :
    (groupChars gs).count ':' ≤ gs.length := by
  have hdigits (g : UInt16) : (Nat.toDigits 16 g.toNat).count ':' = 0 :=
    List.count_eq_zero.mpr fun hmem => ne_colon_of_mem_toDigits ':' hmem rfl
  induction gs with
  | nil => exact Nat.le_refl 0
  | cons g gs ih =>
    cases gs with
    | nil =>
      rw [groupChars_singleton, hdigits]
      exact Nat.zero_le 1
    | cons g' gs =>
      rw [groupChars_cons_cons, List.count_append, List.count_cons_self, hdigits, Nat.zero_add]
      exact Nat.succ_le_succ ih

theorem count_colon_shortChars_le (ip : IPv6) : ip.shortChars.count ':' ≤ 8 := by
  rcases shortChars_cases ip with hall | ⟨before, count, after, hcount, -, hlength, hshort⟩
  · rw [hall]
    exact count_colon_groupChars_le ip.groups
  · have hbefore := count_colon_groupChars_le before
    have hafter := count_colon_groupChars_le after
    have hgap : [':', ':'].count ':' = 2 := by decide
    rw [hshort, List.count_append, List.count_append, hgap]
    omega

/-! ## Reading back -/

/-- With groups on both sides of a gap, zeros make up for what is missing. -/
theorem parse?_of_gap {s : List Char} {before after : List UInt16}
    (hgap : gap? s = some (groupChars before, groupChars after))
    (hlength : before.length + after.length ≤ 7) :
    parse? s = ofGroups? (before
      ++ List.replicate (8 - before.length - after.length) 0 ++ after) := by
  unfold parse?
  rw [hgap]
  show (do
    let head ← groups? false (groupChars before)
    let tail ← groups? true (groupChars after)
    if head.length + tail.length ≤ 7 then
      ofGroups? (head ++ List.replicate (8 - head.length - tail.length) 0 ++ tail)
    else none) = _
  rw [groups?_groupChars, groups?_groupChars]
  exact if_pos hlength

/-- **What is written is read back**, for every address of this version. -/
theorem parse?_toChars (ip : IPv6) : parse? ip.toChars = some ip := by
  cases hmapped : ip.mapped? with
  | some v4 =>
    rw [mapped?_eq_some_iff.mp hmapped]
    exact parse?_toChars_toMapped v4
  | none =>
    unfold toChars
    rw [hmapped]
    dsimp only
    rcases shortChars_cases ip with hall | ⟨before, count, after, hcount, hgroups, hlength, hshort⟩
    · unfold parse?
      rw [hall, gap?_groupChars]
      show (groups? true (groupChars ip.groups)).bind ofGroups? = _
      rw [groups?_groupChars, Option.bind_some, ofGroups?_groups]
    · have hzeros : 8 - before.length - after.length = count := by omega
      rw [hshort, parse?_of_gap (gap?_groupChars_colons _ _) (by omega), hzeros,
        List.append_assoc, ← hgroups, ofGroups?_groups]

end IPv6

/-! ## What cannot be read -/

namespace IPv4

theorem isDigit_of_octet? {s : List Char} {o : UInt8} (h : octet? s = some o) :
    ∀ c ∈ s, c.isDigit = true := by
  unfold octet? at h
  split at h
  · obtain ⟨n, hn, -⟩ := Option.map_eq_some_iff.mp h
    unfold Decimal.digits? at hn
    split at hn
    · cases hn
    · next hall =>
      simp only [Bool.or_eq_true, Bool.not_eq_true', not_or, Bool.not_eq_false] at hall
      exact List.all_eq_true.mp hall.2
  · cases h

/-- What is read as an IPv4 address is digits and dots. -/
theorem isDigit_or_dot_of_parse? {s : List Char} {ip : IPv4} (h : parse? s = some ip) :
    ∀ c ∈ s, c.isDigit = true ∨ c = '.' := by
  intro c hc
  cases hdot : c == '.' with
  | true => exact Or.inr (beq_iff_eq.mp hdot)
  | false =>
    obtain ⟨piece, hpiece, hmem⟩ : ∃ piece ∈ splitAt (· == '.') s, c ∈ piece :=
      exists_mem_splitAt hc hdot
    unfold parse? at h
    split at h
    · next a b c' d hsplit =>
      simp only [Option.bind_eq_bind, Option.bind_eq_some_iff] at h
      obtain ⟨a', ha, b', hb, c'', hc', d', hd, -⟩ := h
      rw [hsplit] at hpiece
      simp only [List.mem_cons, List.not_mem_nil, or_false] at hpiece
      rcases hpiece with rfl | rfl | rfl | rfl
      · exact Or.inl (isDigit_of_octet? ha c hmem)
      · exact Or.inl (isDigit_of_octet? hb c hmem)
      · exact Or.inl (isDigit_of_octet? hc' c hmem)
      · exact Or.inl (isDigit_of_octet? hd c hmem)
    · cases h

theorem parse?_of_mem {s : List Char} {c : Char} (hc : c ∈ s) (hdigit : c.isDigit = false)
    (hdot : c ≠ '.') : parse? s = none := by
  rw [Option.eq_none_iff_forall_ne_some]
  intro ip h
  rcases isDigit_or_dot_of_parse? h c hc with hc | hc
  · rw [hdigit] at hc
    cases hc
  · exact hdot hc

/-- Without a dot there is no IPv4 address. -/
theorem parse?_of_no_dot {s : List Char} (h : ∀ c ∈ s, c ≠ '.') : parse? s = none := by
  unfold parse?
  rw [splitAt_of_forall fun c hc => beq_eq_false_iff_ne.mpr (h c hc)]

/-- An IPv4 address is read from characters of addresses. -/
theorem isAddressChar_of_parse? {s : List Char} {ip : IPv4} (h : parse? s = some ip) :
    ∀ c ∈ s, isAddressChar c = true := by
  intro c hc
  rcases isDigit_or_dot_of_parse? h c hc with hc | rfl
  · exact isAddressChar_of_isHex (isHex_of_isDigit hc)
  · rfl

end IPv4

namespace IPv6

theorem eq_of_gap? {s before after : List Char} (h : gap? s = some (before, after)) :
    s = before ++ ':' :: ':' :: after := by
  induction s generalizing before with
  | nil => cases h
  | cons c s ih =>
    cases s with
    | nil => cases h
    | cons d s =>
      unfold gap? at h
      split at h
      · next hcolons =>
        simp only [Bool.and_eq_true, decide_eq_true_eq] at hcolons
        obtain ⟨rfl, rfl⟩ := hcolons
        cases h
        rfl
      · obtain ⟨p, hp, hcons⟩ := Option.map_eq_some_iff.mp h
        cases hcons
        rw [ih hp]
        rfl

theorem isHex_of_group? {s : List Char} {g : UInt16} (h : group? s = some g) :
    ∀ c ∈ s, isHex c = true := by
  unfold group? at h
  split at h
  · next hgroup => exact List.all_eq_true.mp (Bool.and_eq_true_iff.mp hgroup).2
  · cases h

theorem isAddressChar_of_pieces? {tail : Bool} {pieces : List (List Char)} {gs : List UInt16}
    (h : pieces? tail pieces = some gs) :
    ∀ piece ∈ pieces, ∀ c ∈ piece, isAddressChar c = true := by
  induction pieces generalizing gs with
  | nil => exact fun _ hp => absurd hp List.not_mem_nil
  | cons piece rest ih =>
    have hgroup {g : UInt16} (hg : group? piece = some g) :
        ∀ c ∈ piece, isAddressChar c = true :=
      fun c hc => isAddressChar_of_isHex (isHex_of_group? hg c hc)
    cases rest with
    | nil =>
      intro p hp
      rw [List.mem_singleton.mp hp]
      unfold pieces? at h
      split at h
      · next g hg => exact hgroup hg
      · -- the last piece may be an IPv4 address
        split at h
        · obtain ⟨ip, hip, -⟩ := Option.map_eq_some_iff.mp h
          exact IPv4.isAddressChar_of_parse? hip
        · cases h
    | cons p rest =>
      unfold pieces? at h
      simp only [Option.bind_eq_bind, Option.bind_eq_some_iff] at h
      obtain ⟨g, hg, gs', hgs', -⟩ := h
      intro piece' hp
      rcases List.mem_cons.mp hp with rfl | hp
      · exact hgroup hg
      · exact ih hgs' piece' hp

theorem isAddressChar_of_groups? {tail : Bool} {s : List Char} {gs : List UInt16}
    (h : groups? tail s = some gs) : ∀ c ∈ s, isAddressChar c = true := by
  intro c hc
  unfold groups? at h
  split at h
  · next hempty =>
    rw [List.isEmpty_iff.mp hempty] at hc
    cases hc
  · cases hcolon : c == ':' with
    | true =>
      rw [beq_iff_eq.mp hcolon]
      rfl
    | false =>
      obtain ⟨piece, hpiece, hmem⟩ : ∃ piece ∈ splitAt (· == ':') s, c ∈ piece :=
        exists_mem_splitAt hc hcolon
      exact isAddressChar_of_pieces? h piece hpiece c hmem

theorem isAddressChar_of_parse? {s : List Char} {ip : IPv6} (h : parse? s = some ip) :
    ∀ c ∈ s, isAddressChar c = true := by
  unfold parse? at h
  split at h
  · obtain ⟨gs, hgs, -⟩ := Option.bind_eq_some_iff.mp h
    exact isAddressChar_of_groups? hgs
  · next before after hgap =>
    simp only [Option.bind_eq_bind, Option.bind_eq_some_iff] at h
    obtain ⟨head, hhead, tail, htail, -⟩ := h
    rw [eq_of_gap? hgap]
    intro c hc
    simp only [List.mem_append, List.mem_cons] at hc
    rcases hc with hc | rfl | rfl | hc
    · exact isAddressChar_of_groups? hhead c hc
    · rfl
    · rfl
    · exact isAddressChar_of_groups? htail c hc

end IPv6

/-- **What is read as an address** is written with digits, colons and dots. -/
theorem Address.isAddressChar_of_parseChars? {s : List Char} {a : Address}
    (h : parseChars? s = some a) : ∀ c ∈ s, isAddressChar c = true := by
  unfold parseChars? at h
  split at h
  · next ip hip => exact IPv4.isAddressChar_of_parse? hip
  · obtain ⟨ip, hip, -⟩ := Option.map_eq_some_iff.mp h
    exact IPv6.isAddressChar_of_parse? hip

end Gatehouse
