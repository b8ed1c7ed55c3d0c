import Gatehouse.Proofs.Country.Verdict
import Gatehouse.Proofs.Text

/-!
# Editing a configured list

Whoever looks after a list of countries moves entries around, writes them in small
letters or in capitals, lines them up with blanks, repeats one and leaves empty ones
behind. None of this touches the codes of the list, and `Edit` names these edits one
by one. The converse is what makes the enumeration worth having: two lists with the
same codes come from each other by such edits alone (`eqvGen_edit_iff`), so there is
nothing else about the writing of a list that does not matter.

A policy keeps the codes as a sorted set. That set is strictly increasing
(`pairwise_codeSet`), and a strictly increasing list is known by its members; so the
policy of two lists depends on their codes and on nothing else, it can be written
down and read again, and what one more entry does to it is decided by the entry.
All of this is `Policy.ofLists_editing`.

Texts are compared by code point, which is the order of their UTF-8 bytes.
-/

namespace Gatehouse.Text

/-! ## Capitals -/

/-- A letter and its capital are both no blank. -/
theorem isBlank_toUpper (c : Char) : isBlank c.toUpper = isBlank c := by
  unfold Char.toUpper
  split
  · next h =>
    have hascii : c.toNat < 128 := Nat.lt_of_le_of_lt h.2 (by decide)
    have htable := forall_ascii (P := fun c => isBlank c.toUpper = isBlank c)
      (by decide +kernel) hascii
    rwa [Char.toUpper, dif_pos h] at htable
  · rfl

/-- **Trimming and capitals do not meet**: either comes first. -/
theorem trim_upper (s : String) : trim (upper s) = upper (trim s) := by
  have hdrop (t : List Char) :
      (t.map Char.toUpper).dropWhile isBlank = (t.dropWhile isBlank).map Char.toUpper := by
    have hblank : isBlank ∘ Char.toUpper = isBlank := funext isBlank_toUpper
    rw [List.dropWhile_map, hblank]
  unfold trim upper trimChars
  rw [String.toList_ofList, String.toList_ofList, hdrop, ← List.map_reverse, hdrop,
    ← List.map_reverse]

/-- Capitals stay as they are. -/
theorem upper_upper (s : String) : upper (upper s) = upper s := by
  unfold upper
  rw [String.toList_ofList, List.map_map]
  exact congrArg String.ofList
    (List.map_congr_left fun c _ => Char.toUpper_toUpper_eq_toUpper c)

/-- A trimmed text in capitals is its own. -/
theorem upper_trim_upper_trim (s : String) :
    upper (trim (upper (trim s))) = upper (trim s) := by
  have htrim : trim (trim s) = trim s := by
    unfold trim
    rw [String.toList_ofList, trimChars_trimChars]
  rw [trim_upper, htrim, upper_upper]

/-! ## The order of texts -/

/-- Which text comes first is decided as for lists of characters. -/
theorem compareCodes_eq_lt_iff {s t : List Char} : compareCodes s t = .lt ↔ s < t := by
  induction s generalizing t with
  | nil => cases t <;> simp [compareCodes]
  | cons a s ih =>
    cases t with
    | nil => simp [compareCodes]
    | cons b t =>
      have hlt (x y : Char) : x.toNat < y.toNat ↔ x < y := Iff.rfl
      rw [List.cons_lt_cons_iff, compareCodes]
      simp only [hlt]
      split
      · next h => exact iff_of_true rfl (.inl h)
      · next h =>
        split
        · next h' =>
          refine iff_of_false (by decide) fun hor => ?_
          rcases hor with h'' | ⟨rfl, -⟩
          · exact h h''
          · exact h h'
        · next h' =>
          rw [ih, le_antisymm (not_lt.mp h') (not_lt.mp h)]
          simp

/-- And the text that comes later is the greater one. -/
theorem compareCodes_eq_gt_iff {s t : List Char} : compareCodes s t = .gt ↔ t < s := by
  have htri : compareCodes s t = .gt ↔ ¬ compareCodes s t = .lt ∧ ¬ compareCodes s t = .eq := by
    cases compareCodes s t <;> decide
  rw [htri, compareCodes_eq_lt_iff, compareCodes_eq_iff, not_lt, and_comm]
  constructor
  · rintro ⟨hne, hle⟩
    exact lt_of_le_of_ne hle (Ne.symm hne)
  · intro h
    exact ⟨ne_of_gt h, le_of_lt h⟩

end Gatehouse.Text

namespace Gatehouse.Country

open Text

variable {entries entries' : List String}

/-! ## Lists with the same codes -/

/-- **Two lists say the same** when they have the same codes. -/
def SameCodes (entries entries' : List String) : Prop :=
  ∀ code, IsCode entries code ↔ IsCode entries' code

/-- A code is written as it is. -/
theorem IsCode.upper_trim {code : String} (h : IsCode entries code) :
    upper (trim code) = code := by
  obtain ⟨-, e, -, rfl⟩ := h
  exact upper_trim_upper_trim e

/-- More entries have more codes. -/
theorem IsCode.mono {code : String} (hsub : entries ⊆ entries') (h : IsCode entries code) :
    IsCode entries' code := by
  obtain ⟨hne, e, he, hcode⟩ := h
  exact ⟨hne, e, hsub he, hcode⟩

theorem isCode_append {code : String} :
    IsCode (entries ++ entries') code ↔ IsCode entries code ∨ IsCode entries' code := by
  unfold IsCode
  simp only [List.mem_append, or_and_right, exists_or, and_or_left]

theorem isCode_cons {e code : String} :
    IsCode (e :: entries) code
      ↔ (code ≠ "" ∧ upper (trim e) = code) ∨ IsCode entries code := by
  rw [← List.singleton_append, isCode_append]
  simp [IsCode]

/-- The set of a list has the codes of the list. -/
theorem sameCodes_codeSet : SameCodes (codeSet entries) entries := by
  intro code
  constructor
  · rintro ⟨-, c, hc, rfl⟩
    have hcode := mem_codeSet.mp hc
    rwa [hcode.upper_trim]
  · intro h
    exact ⟨h.1, code, mem_codeSet.mpr h, h.upper_trim⟩

/-! ## The set of a list -/

/-- Putting a code into an increasing list leaves it increasing. -/
theorem pairwise_insertCode {code : String} {set : List String} (h : set.Pairwise (· < ·)) :
    (insertCode code set).Pairwise (· < ·) := by
  induction set with
  | nil => exact List.pairwise_singleton _ _
  | cons c cs ih =>
    obtain ⟨hc, hcs⟩ := List.pairwise_cons.mp h
    unfold insertCode
    split
    · next hlt =>
      have hlt : code < c := String.lt_iff_toList_lt.mpr (compareCodes_eq_lt_iff.mp hlt)
      refine List.pairwise_cons.mpr ⟨fun x hx => ?_, h⟩
      rcases List.mem_cons.mp hx with rfl | hx
      · exact hlt
      · exact lt_trans hlt (hc x hx)
    · exact h
    · next hgt =>
      have hgt : c < code := String.lt_iff_toList_lt.mpr (compareCodes_eq_gt_iff.mp hgt)
      refine List.pairwise_cons.mpr ⟨fun x hx => ?_, ih hcs⟩
      rcases mem_insertCode.mp hx with rfl | hx
      · exact hgt
      · exact hc x hx

theorem pairwise_foldl_insertCode {codes set : List String} (h : set.Pairwise (· < ·)) :
    (codes.foldl (fun set code => insertCode code set) set).Pairwise (· < ·) := by
  induction codes generalizing set with
  | nil => exact h
  | cons c cs ih => exact ih (pairwise_insertCode h)

/-- **The set of a list is strictly increasing.** -/
theorem pairwise_codeSet (entries : List String) : (codeSet entries).Pairwise (· < ·) :=
  pairwise_foldl_insertCode List.Pairwise.nil

/-- **The set of a list is known by its codes.** -/
theorem codeSet_eq_codeSet_iff :
    codeSet entries = codeSet entries' ↔ SameCodes entries entries' := by
  constructor
  · intro h code
    rw [← mem_codeSet, h, mem_codeSet]
  · intro h
    refine (pairwise_codeSet entries).eq_of_mem_iff (pairwise_codeSet entries') fun code => ?_
    rw [mem_codeSet, mem_codeSet]
    exact h code

theorem codeSet_codeSet : codeSet (codeSet entries) = codeSet entries :=
  codeSet_eq_codeSet_iff.mpr sameCodes_codeSet

/-! ## Edits -/

/-- **An edit that touches no code**, at any place of a list. -/
inductive Edit : List String → List String → Prop
  /-- Entries change places. -/
  | reorder {entries entries' : List String} (h : entries.Perm entries') :
    Edit entries entries'
  /-- An entry is written once more. -/
  | duplicate (before after : List String) {e : String} (h : e ∈ before ++ after) :
    Edit (before ++ after) (before ++ e :: after)
  /-- Letters of an entry change between small and capital. -/
  | recase (before after : List String) {e e' : String} (h : upper e = upper e') :
    Edit (before ++ e :: after) (before ++ e' :: after)
  /-- Blanks are put around an entry. -/
  | pad (before after : List String) {e : String} {lead trail : List Char}
    (hlead : ∀ c ∈ lead, isBlank c = true) (htrail : ∀ c ∈ trail, isBlank c = true) :
    Edit (before ++ e :: after) (before ++ String.ofList (lead ++ e.toList ++ trail) :: after)
  /-- An entry of blanks alone, or without any character, is put in. -/
  | leaveBlank (before after : List String) {e : String}
    (h : ∀ c ∈ e.toList, isBlank c = true) :
    Edit (before ++ after) (before ++ e :: after)

theorem SameCodes.of_subset (h : entries ⊆ entries') (h' : entries' ⊆ entries) :
    SameCodes entries entries' :=
  fun _ => ⟨IsCode.mono h, IsCode.mono h'⟩

/-- The place of an entry does not matter. -/
theorem isCode_middle {before after : List String} {e code : String} :
    IsCode (before ++ e :: after) code
      ↔ (code ≠ "" ∧ upper (trim e) = code) ∨ IsCode (before ++ after) code := by
  rw [← isCode_cons]
  exact SameCodes.of_subset List.perm_middle.subset List.perm_middle.symm.subset code

/-- **No edit changes the codes.** -/
theorem Edit.sameCodes (h : Edit entries entries') : SameCodes entries entries' := by
  cases h with
  | reorder h => exact .of_subset h.subset h.symm.subset
  | duplicate before after h =>
    intro code
    rw [isCode_middle]
    refine ⟨.inr, fun hor => ?_⟩
    rcases hor with ⟨hne, hcode⟩ | hcode
    · exact ⟨hne, _, h, hcode⟩
    · exact hcode
  | recase before after h =>
    intro code
    rw [isCode_middle, isCode_middle, ← trim_upper, h, trim_upper]
  | pad before after hlead htrail =>
    intro code
    rw [isCode_middle, isCode_middle, trim, trim, String.toList_ofList,
      trimChars_pad hlead htrail]
  | @leaveBlank before after e h =>
    intro code
    have hblank : upper (trim e) = "" := by
      have hpad := trimChars_pad h (List.forall_mem_nil _) []
      rw [List.append_nil, List.append_nil] at hpad
      rw [trim, hpad]
      rfl
    rw [isCode_middle, hblank]
    exact ⟨.inr, fun hor => hor.resolve_left fun hand => hand.1 hand.2.symm⟩

/-- An edit of the rest of a list is one of the list. -/
theorem Edit.cons (x : String) (h : Edit entries entries') :
    Edit (x :: entries) (x :: entries') := by
  cases h with
  | reorder h => exact .reorder (h.cons x)
  | duplicate before after h =>
    exact .duplicate (x :: before) after (List.mem_cons_of_mem x h)
  | recase before after h => exact .recase (x :: before) after h
  | pad before after hlead htrail => exact .pad (x :: before) after hlead htrail
  | leaveBlank before after h => exact .leaveBlank (x :: before) after h

open Relation (EqvGen)

theorem eqvGen_edit_cons (x : String) (h : EqvGen Edit entries entries') :
    EqvGen Edit (x :: entries) (x :: entries') := by
  induction h with
  | rel _ _ h => exact .rel _ _ (h.cons x)
  | refl _ => exact .refl _
  | symm _ _ _ ih => exact .symm _ _ ih
  | trans _ _ _ _ _ ih ih' => exact .trans _ _ _ ih ih'

/-- **An entry may be written as its code.** -/
theorem eqvGen_edit_written (e : String) (entries : List String) :
    EqvGen Edit (e :: entries) (upper (trim e) :: entries) := by
  obtain ⟨lead, trail, hlead, htrail, he⟩ := exists_eq_pad_trimChars e.toList
  have hpad := Edit.pad (e := trim e) [] entries hlead htrail
  rw [trim, String.toList_ofList, ← he, String.ofList_toList] at hpad
  exact .trans _ _ _ (.symm _ _ (.rel _ _ hpad))
    (.rel _ _ (.recase [] entries (upper_upper (trim e)).symm))

/-- The codes of a list in the order of its entries, as often as they are written. -/
def writtenCodes (entries : List String) : List String :=
  (entries.map fun e => upper (trim e)).filter (· ≠ "")

theorem mem_writtenCodes {code : String} :
    code ∈ writtenCodes entries ↔ IsCode entries code := by
  unfold writtenCodes IsCode
  rw [List.mem_filter, List.mem_map]
  simp [and_comm]

theorem eqvGen_edit_writtenCodes (entries : List String) :
    EqvGen Edit entries (writtenCodes entries) := by
  induction entries with
  | nil => exact .refl _
  | cons e entries ih =>
    have hrest := (eqvGen_edit_written e entries).trans _ _ _ (eqvGen_edit_cons _ ih)
    by_cases hblank : upper (trim e) = ""
    · have hdrop : Edit (writtenCodes entries) (upper (trim e) :: writtenCodes entries) :=
        .leaveBlank [] (writtenCodes entries) (by rw [hblank]; exact List.forall_mem_nil _)
      have hcodes : writtenCodes (e :: entries) = writtenCodes entries := by
        simp [writtenCodes, hblank]
      rw [hcodes]
      exact hrest.trans _ _ _ (.symm _ _ (.rel _ _ hdrop))
    · have hcodes : writtenCodes (e :: entries) = upper (trim e) :: writtenCodes entries := by
        simp [writtenCodes, hblank]
      rwa [hcodes]

/-- Entries of a list may be written once more. -/
theorem eqvGen_edit_append (h : entries' ⊆ entries) :
    EqvGen Edit entries (entries' ++ entries) := by
  induction entries' with
  | nil => exact .refl _
  | cons e entries' ih =>
    obtain ⟨he, hrest⟩ := List.cons_subset.mp h
    exact (ih hrest).trans _ _ _
      (.rel _ _ (.duplicate [] (entries' ++ entries) (List.mem_append_right entries' he)))

/-- **There are no other edits**: two lists have the same codes exactly if one becomes
the other by edits of these kinds. -/
theorem eqvGen_edit_iff : EqvGen Edit entries entries' ↔ SameCodes entries entries' := by
  constructor
  · intro h
    induction h with
    | rel _ _ h => exact h.sameCodes
    | refl _ => exact fun _ => Iff.rfl
    | symm _ _ _ ih => exact fun code => (ih code).symm
    | trans _ _ _ _ _ ih ih' => exact fun code => (ih code).trans (ih' code)
  · intro h
    have hsub : writtenCodes entries' ⊆ writtenCodes entries := fun code hcode =>
      mem_writtenCodes.mpr ((h code).mpr (mem_writtenCodes.mp hcode))
    have hsub' : writtenCodes entries ⊆ writtenCodes entries' := fun code hcode =>
      mem_writtenCodes.mpr ((h code).mp (mem_writtenCodes.mp hcode))
    -- both lists of codes grow into one that has the codes of both
    have hjoin : EqvGen Edit (writtenCodes entries' ++ writtenCodes entries)
        (writtenCodes entries ++ writtenCodes entries') :=
      .rel _ _ (.reorder List.perm_append_comm)
    have hleft := (eqvGen_edit_writtenCodes entries).trans _ _ _ (eqvGen_edit_append hsub)
    have hright := (eqvGen_edit_writtenCodes entries').trans _ _ _ (eqvGen_edit_append hsub')
    exact (hleft.trans _ _ _ hjoin).trans _ _ _ (hright.symm _ _)

namespace Policy

variable {allow allow' block block' : List String} {country country' : String}

/-! ## The policy of two lists -/

/-- **What the policy depends on**: the codes of the allow list, and where it has none
those of the block list. -/
theorem ofLists_eq_iff : ofLists allow' block' = ofLists allow block
    ↔ SameCodes allow' allow
      ∧ ((∃ code, IsCode allow code) ∨ SameCodes block' block) := by
  rw [← codeSet_ne_nil_iff, ← codeSet_eq_codeSet_iff, ← codeSet_eq_codeSet_iff]
  unfold ofLists
  by_cases hallow : codeSet allow = []
  · -- the block list decides, so the other allow list must have no code either
    by_cases hallow' : codeSet allow' = []
    · split_ifs <;> simp_all
    · split_ifs <;> simp [hallow, hallow']
  · by_cases hallow' : codeSet allow' = []
    · split_ifs <;> simp [hallow', Ne.symm hallow]
    · simp [hallow, hallow']

theorem countries_ofLists : (ofLists allow block).countries
    = if codeSet allow ≠ [] then codeSet allow else codeSet block := by
  unfold ofLists
  split_ifs with hallow hblock
  · rfl
  · rfl
  · exact (not_not.mp hblock).symm

/-- The case of the letters in a country does not matter. -/
theorem rejects_congr {p : Policy} (h : upper country = upper country') :
    p.rejects country = p.rejects country' := by
  have hlists (codes : List String) : lists codes country = lists codes country' := by
    have hempty : country = "" ↔ country' = "" := by
      rw [← upper_eq_empty_iff, h, upper_eq_empty_iff]
    unfold lists
    rw [h]
    simp only [ne_eq, hempty]
  cases p <;> simp only [rejects, hlists]

/-- **A policy can be written down.** Its countries, as the list of its kind beside an
empty one, make the policy again. -/
theorem ofLists_countries :
    (∀ codes, ofLists allow block = .allowOnly codes →
        ofLists (ofLists allow block).countries [] = ofLists allow block)
      ∧ (∀ codes, ofLists allow block = .blockOnly codes →
        ofLists [] (ofLists allow block).countries = ofLists allow block)
      ∧ (ofLists allow block = .unrestricted →
        (ofLists allow block).countries = [] ∧ ofLists [] [] = ofLists allow block) := by
  have hnone : codeSet [] = [] := rfl
  rw [countries_ofLists]
  unfold ofLists
  by_cases hallow : codeSet allow = []
  · by_cases hblock : codeSet block = []
    · simp [hallow, hblock, hnone]
    · simp [hallow, hblock, hnone, codeSet_codeSet]
  · simp [hallow, codeSet_codeSet]

/-- **One more entry in an allow list** that has a code lets more pass. -/
theorem passes_of_subset_allow (hgiven : ∃ code, IsCode allow code) (hsub : allow ⊆ allow')
    (hpass : (ofLists allow block).rejects country = none) :
    (ofLists allow' block').rejects country = none := by
  rw [rejects_ofLists_eq_none_iff] at hpass ⊢
  intro l
  cases l with
  | allow =>
    rintro ⟨-, hnot⟩
    exact hpass .allow ⟨hgiven, fun hcode => hnot (hcode.mono hsub)⟩
  | block =>
    rintro ⟨hblank, -⟩
    obtain ⟨code, hcode⟩ := hgiven
    exact hblank ⟨code, hcode.mono hsub⟩

/-- **One more entry in a block list** that decides turns more away. -/
theorem rejects_of_subset_block (hblank : ¬ ∃ code, IsCode allow code) (hsub : block ⊆ block')
    {l : PolicyList} (hreject : (ofLists allow block).rejects country = some l) :
    (ofLists allow block').rejects country = some l := by
  rw [rejects_ofLists_eq_some_iff] at hreject ⊢
  cases l with
  | allow => exact absurd hreject.1 hblank
  | block =>
    obtain ⟨-, hne, hcode⟩ := hreject
    exact ⟨hblank, hne, hcode.mono hsub⟩

/-- **What editing the lists does to their policy.**

The policy is that of other lists exactly if the allow lists have the same codes and,
unless these decide, the block lists have; and lists have the same codes exactly if
one becomes the other by moving entries, repeating them, changing the case of their
letters, putting blanks around them and leaving blank ones in between. The countries
of the policy are strictly increasing, and written as the list of the policy's kind
they make it again. A country is judged alike in every case of letters. More entries
in an allow list that has a code turn nobody away who passed, whatever becomes of the
block list; more entries in a block list, where the allow list has no code, let nobody
pass who was turned away. -/
theorem ofLists_editing (allow block : List String) :
    (∀ allow' block', ofLists allow' block' = ofLists allow block
        ↔ SameCodes allow' allow
          ∧ ((∃ code, IsCode allow code) ∨ SameCodes block' block))
      ∧ (∀ entries entries', SameCodes entries entries' ↔ EqvGen Edit entries entries')
      ∧ (ofLists allow block).countries.Pairwise (· < ·)
      ∧ (∀ codes, ofLists allow block = .allowOnly codes →
        ofLists (ofLists allow block).countries [] = ofLists allow block)
      ∧ (∀ codes, ofLists allow block = .blockOnly codes →
        ofLists [] (ofLists allow block).countries = ofLists allow block)
      ∧ (ofLists allow block = .unrestricted →
        (ofLists allow block).countries = [] ∧ ofLists [] [] = ofLists allow block)
      ∧ (∀ country country', upper country = upper country' →
        (ofLists allow block).rejects country = (ofLists allow block).rejects country')
      ∧ (∀ allow' block', (∃ code, IsCode allow code) → allow ⊆ allow' →
        ∀ country, (ofLists allow block).rejects country = none →
          (ofLists allow' block').rejects country = none)
      ∧ (∀ block', (¬ ∃ code, IsCode allow code) → block ⊆ block' →
        ∀ country l, (ofLists allow block).rejects country = some l →
          (ofLists allow block').rejects country = some l) := by
  obtain ⟨hallowOnly, hblockOnly, hunrestricted⟩ := @ofLists_countries allow block
  refine ⟨fun _ _ => ofLists_eq_iff, fun _ _ => eqvGen_edit_iff.symm, ?_, hallowOnly,
    hblockOnly, hunrestricted, fun _ _ => rejects_congr,
    fun _ _ hgiven hsub _ => passes_of_subset_allow hgiven hsub,
    fun _ hblank hsub _ _ => rejects_of_subset_block hblank hsub⟩
  rw [countries_ofLists]
  split
  · exact pairwise_codeSet allow
  · exact pairwise_codeSet block

/-- Two countries, written without much care. -/
def untidy : List String := ["us", " Gb", "", "US"]

/-- **They may be tidied up** while nothing happens to anyone, and one more country to
let pass is no reason to turn another away; nor does a second country to turn away let
the first one pass. -/
theorem ofLists_editing_tidied :
    ofLists ["GB", "US"] [] = ofLists untidy ["fr"]
      ∧ ofLists (ofLists untidy ["fr"]).countries [] = ofLists untidy ["fr"]
      ∧ (ofLists untidy ["fr"]).rejects "gB" = none
      ∧ (ofLists (untidy ++ ["de"]) []).rejects "gB" = none
      ∧ (ofLists [" "] ["fr", "de"]).rejects "Fr" = some .block := by
  obtain ⟨hpolicy, -, -, hkind, -, -, hcase, hmore, -⟩ := ofLists_editing untidy ["fr"]
  obtain ⟨-, -, -, -, -, -, -, -, hmoreBlocked⟩ := ofLists_editing [" "] ["fr"]
  have hgiven : ∃ code, IsCode untidy code :=
    codeSet_ne_nil_iff.mp (by decide +kernel)
  have hblank : ¬ ∃ code, IsCode [" "] code := fun hcode =>
    codeSet_ne_nil_iff.mpr hcode (by decide +kernel)
  have hsame : SameCodes ["GB", "US"] untidy := codeSet_eq_codeSet_iff.mp (by decide +kernel)
  have hpass : (ofLists untidy ["fr"]).rejects "gB" = none :=
    (hcase "gB" "GB" (by decide +kernel)).trans (by decide +kernel)
  exact ⟨(hpolicy _ _).mpr ⟨hsame, .inl hgiven⟩, hkind ["GB", "US"] (by decide +kernel), hpass,
    hmore _ _ hgiven (List.subset_append_left _ _) _ hpass,
    hmoreBlocked _ hblank (List.subset_append_left ["fr"] ["de"]) _ _ (by decide +kernel)⟩

end Policy

end Gatehouse.Country
