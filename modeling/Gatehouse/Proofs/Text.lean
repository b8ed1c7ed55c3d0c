import Gatehouse.Text.Ascii
import Gatehouse.Text.Blank

/-!
# Taking texts apart

Readers take a text apart at separators and remove the blanks at its ends.
Two things are said of that here. A text in which there is nothing of the
kind comes out as it went in, so what was put together from pieces falls into
these pieces again. And splitting goes piece by piece: at a separator in the
middle both sides are split on their own, and pieces may be split once more.

In front of that stand two ways of arguing about readers: by a table of the ASCII
characters, and from one step of a reading to the next.
-/

namespace Gatehouse.Text

variable {α : Type} {sep : α → Bool} {piece : List α}

/-! ## ASCII -/

/-- What holds of each ASCII character by a table holds of all of them. -/
theorem forall_ascii {P : Char → Prop} (h : ∀ n : Fin 128, P (Char.ofNat n.1)) {c : Char}
    (hc : c.toNat < 128) : P c := by
  have hchar := h ⟨c.toNat, hc⟩
  rwa [Char.ofNat_toNat] at hchar

/-! ## Reading in steps -/

/-- What two steps read has gone through both. -/
theorem exists_of_bind_eq_ok {ε β γ : Type} {x : Except ε β} {f : β → Except ε γ} {c : γ}
    (h : (x >>= f) = .ok c) : ∃ b, x = .ok b ∧ f b = .ok c := by
  cases x with
  | error e => cases h
  | ok b => exact ⟨b, rfl, h⟩

/-! ## Pieces between separators -/

/-- There is always a first piece. -/
theorem exists_splitAt_eq_cons (sep : α → Bool) (s : List α) :
    ∃ first rest, splitAt sep s = first :: rest :=
  List.exists_cons_of_ne_nil (splitAt_ne_nil sep s)

/-- A separator in front closes an empty piece. -/
theorem splitAt_cons_of_sep {c : α} (hc : sep c = true) (s : List α) :
    splitAt sep (c :: s) = [] :: splitAt sep s := by
  rw [splitAt, if_pos hc]

/-- Anything else in front belongs to the first piece. -/
theorem splitAt_cons_of_not_sep {c : α} (hc : sep c = false) {s first : List α}
    {rest : List (List α)} (h : splitAt sep s = first :: rest) :
    splitAt sep (c :: s) = (c :: first) :: rest := by
  rw [splitAt, if_neg (Bool.not_eq_true _ ▸ hc), h]

/-- **A separator in the middle splits off both sides.** -/
theorem splitAt_append_sep {c : α} (hc : sep c = true) (before after : List α) :
    splitAt sep (before ++ c :: after) = splitAt sep before ++ splitAt sep after := by
  induction before with
  | nil => exact splitAt_cons_of_sep hc after
  | cons x before ih =>
    by_cases hx : sep x = true
    · rw [List.cons_append, splitAt_cons_of_sep hx, splitAt_cons_of_sep hx, ih,
        List.cons_append]
    · obtain ⟨first, rest, hsplit⟩ := exists_splitAt_eq_cons sep before
      rw [hsplit, List.cons_append] at ih
      rw [List.cons_append, splitAt_cons_of_not_sep (Bool.eq_false_iff.mpr hx) ih,
        splitAt_cons_of_not_sep (Bool.eq_false_iff.mpr hx) hsplit, List.cons_append]

/-- A list without separators is one piece. -/
theorem splitAt_of_forall (hpiece : ∀ x ∈ piece, sep x = false) :
    splitAt sep piece = [piece] := by
  induction piece with
  | nil => rfl
  | cons x piece ih =>
    exact splitAt_cons_of_not_sep (hpiece x List.mem_cons_self)
      (ih fun y hy => hpiece y (List.mem_cons_of_mem x hy))

/-- A piece without separators in front of a separator is the first piece. -/
theorem splitAt_append_cons {c : α} (hpiece : ∀ x ∈ piece, sep x = false)
    (hc : sep c = true) (rest : List α) :
    splitAt sep (piece ++ c :: rest) = piece :: splitAt sep rest := by
  rw [splitAt_append_sep hc, splitAt_of_forall hpiece, List.singleton_append]

/-- **Pieces that were put together** with a separator between each two come
apart again. -/
theorem splitAt_intercalate {c : α} (hc : sep c = true) {pieces : List (List α)}
    (hne : pieces ≠ []) (hpieces : ∀ p ∈ pieces, ∀ x ∈ p, sep x = false) :
    splitAt sep (List.intercalate [c] pieces) = pieces := by
  induction pieces with
  | nil => exact absurd rfl hne
  | cons p rest ih =>
    have hp := hpieces p List.mem_cons_self
    cases rest with
    | nil => rw [List.intercalate_singleton, splitAt_of_forall hp]
    | cons q rest =>
      have hrest := ih (List.cons_ne_nil q rest) fun x hx =>
        hpieces x (List.mem_cons_of_mem p hx)
      rw [List.intercalate_cons_cons, List.append_assoc, List.singleton_append,
        splitAt_append_cons hp hc, hrest]

/-- What does not separate is in one of the pieces. -/
theorem exists_mem_splitAt {s : List α} {x : α} (hx : x ∈ s) (hsep : sep x = false) :
    ∃ piece ∈ splitAt sep s, x ∈ piece := by
  induction s with
  | nil => cases hx
  | cons c s ih =>
    obtain ⟨first, rest, hsplit⟩ := exists_splitAt_eq_cons sep s
    by_cases hc : sep c = true
    · rw [splitAt_cons_of_sep hc]
      rcases List.mem_cons.mp hx with rfl | hx
      · rw [hsep] at hc
        cases hc
      · obtain ⟨piece, hpiece, hmem⟩ := ih hx
        exact ⟨piece, List.mem_cons_of_mem _ hpiece, hmem⟩
    · rw [splitAt_cons_of_not_sep (Bool.eq_false_iff.mpr hc) hsplit]
      rcases List.mem_cons.mp hx with rfl | hx
      · exact ⟨_, List.mem_cons_self, List.mem_cons_self⟩
      · obtain ⟨piece, hpiece, hmem⟩ := ih hx
        rw [hsplit] at hpiece
        rcases List.mem_cons.mp hpiece with rfl | hpiece
        · exact ⟨_, List.mem_cons_self, List.mem_cons_of_mem c hmem⟩
        · exact ⟨piece, List.mem_cons_of_mem _ hpiece, hmem⟩

/-- What is in a piece is in the list. -/
theorem mem_of_mem_splitAt {s : List α} (hpiece : piece ∈ splitAt sep s) {x : α}
    (hx : x ∈ piece) : x ∈ s := by
  induction s generalizing piece with
  | nil =>
    rw [List.mem_singleton.mp hpiece] at hx
    cases hx
  | cons c s ih =>
    obtain ⟨first, rest, hsplit⟩ := exists_splitAt_eq_cons sep s
    rw [hsplit] at ih
    by_cases hc : sep c = true
    · rw [splitAt_cons_of_sep hc, hsplit] at hpiece
      rcases List.mem_cons.mp hpiece with rfl | hpiece
      · cases hx
      · exact List.mem_cons_of_mem c (ih hpiece hx)
    · rw [splitAt_cons_of_not_sep (Bool.eq_false_iff.mpr hc) hsplit] at hpiece
      rcases List.mem_cons.mp hpiece with rfl | hpiece
      · rcases List.mem_cons.mp hx with rfl | hx
        · exact List.mem_cons_self
        · exact List.mem_cons_of_mem c (ih List.mem_cons_self hx)
      · exact List.mem_cons_of_mem c (ih (List.mem_cons_of_mem first hpiece) hx)

/-- **Splitting twice.** Where fewer elements separate, the pieces are coarser,
and splitting them further gives the finer ones. -/
theorem splitAt_eq_flatMap {coarse : α → Bool} (h : ∀ x, coarse x = true → sep x = true)
    (s : List α) : splitAt sep s = (splitAt coarse s).flatMap (splitAt sep) := by
  induction s with
  | nil => rfl
  | cons c s ih =>
    -- what is no coarse separator joins the first coarse piece, and there it is
    -- split off or joins the first fine one
    by_cases hcoarse : coarse c = true
    · rw [splitAt_cons_of_sep (h c hcoarse), splitAt_cons_of_sep hcoarse,
        List.flatMap_cons, ← ih]
      rfl
    · obtain ⟨first, rest, hsplit⟩ := exists_splitAt_eq_cons coarse s
      obtain ⟨head, tail, hfirst⟩ := exists_splitAt_eq_cons sep first
      rw [hsplit, List.flatMap_cons, hfirst, List.cons_append] at ih
      rw [splitAt_cons_of_not_sep (Bool.eq_false_iff.mpr hcoarse) hsplit, List.flatMap_cons]
      by_cases hc : sep c = true
      · rw [splitAt_cons_of_sep hc, splitAt_cons_of_sep hc, ih, hfirst, List.cons_append,
          List.cons_append]
      · rw [splitAt_cons_of_not_sep (Bool.eq_false_iff.mpr hc) ih,
          splitAt_cons_of_not_sep (Bool.eq_false_iff.mpr hc) hfirst, List.cons_append]

/-- What separates may be said before or after a change of the elements. -/
theorem splitAt_map {β : Type} {sep' : β → Bool} (f : β → α)
    (hsep : ∀ x, sep' x = sep (f x)) (s : List β) :
    splitAt sep (s.map f) = (splitAt sep' s).map (List.map f) := by
  induction s with
  | nil => rfl
  | cons c s ih =>
    obtain ⟨first, rest, hsplit⟩ := exists_splitAt_eq_cons sep' s
    by_cases hc : sep' c = true
    · rw [List.map_cons, splitAt_cons_of_sep (hsep c ▸ hc), ih, splitAt_cons_of_sep hc]
      rfl
    · have hc' : sep' c = false := Bool.eq_false_iff.mpr hc
      rw [hsplit, List.map_cons] at ih
      rw [List.map_cons, splitAt_cons_of_not_sep (hsep c ▸ hc') ih,
        splitAt_cons_of_not_sep hc' hsplit]
      rfl

/-! ## Cutting at the first separator -/

/-- Without a separator nothing is cut. -/
theorem cutAt?_of_forall (hpiece : ∀ x ∈ piece, sep x = false) :
    cutAt? sep piece = none := by
  induction piece with
  | nil => rfl
  | cons x piece ih =>
    rw [cutAt?, hpiece x List.mem_cons_self,
      ih fun y hy => hpiece y (List.mem_cons_of_mem x hy)]
    rfl

/-- Behind a piece without separators, the cut is at the separator. -/
theorem cutAt?_append_cons {c : α} (hpiece : ∀ x ∈ piece, sep x = false)
    (hc : sep c = true) (rest : List α) :
    cutAt? sep (piece ++ c :: rest) = some (piece, rest) := by
  induction piece with
  | nil => rw [List.nil_append, cutAt?, if_pos hc]
  | cons x piece ih =>
    rw [List.cons_append, cutAt?, hpiece x List.mem_cons_self,
      ih fun y hy => hpiece y (List.mem_cons_of_mem x hy)]
    rfl

/-- A cut leaves out the separator and nothing else. -/
theorem eq_of_cutAt? {s before after : List α} (h : cutAt? sep s = some (before, after)) :
    ∃ c, sep c = true ∧ s = before ++ c :: after := by
  induction s generalizing before with
  | nil => cases h
  | cons c s ih =>
    unfold cutAt? at h
    split at h
    · next hc =>
      cases h
      exact ⟨c, hc, rfl⟩
    · obtain ⟨p, hp, hcons⟩ := Option.map_eq_some_iff.mp h
      cases hcons
      obtain ⟨x, hx, rfl⟩ := ih hp
      exact ⟨x, hx, rfl⟩

/-- What is left behind a lead is what stood there. -/
theorem eq_append_of_afterLead? [BEq α] [LawfulBEq α] {lead s rest : List α}
    (h : afterLead? lead s = some rest) : s = lead ++ rest := by
  induction lead generalizing s with
  | nil =>
    cases h
    rfl
  | cons l ls ih =>
    cases s with
    | nil => cases h
    | cons c cs =>
      unfold afterLead? at h
      split at h
      · next heq =>
        rw [ih h, beq_iff_eq.mp heq]
        rfl
      · cases h

/-! ## Blanks at the ends -/

/-- Where the first character is no blank, there is nothing to drop. -/
theorem dropWhile_isBlank_of_head? {s : List Char}
    (h : ∀ c, s.head? = some c → isBlank c = false) : s.dropWhile isBlank = s := by
  cases s with
  | nil => rfl
  | cons c s => rw [List.dropWhile_cons, h c rfl, if_neg Bool.false_ne_true]

/-- **What has no blank at its ends is not trimmed**, whatever is between. -/
theorem trimChars_of_ends {s : List Char} (hhead : ∀ c, s.head? = some c → isBlank c = false)
    (hlast : ∀ c, s.getLast? = some c → isBlank c = false) : trimChars s = s := by
  unfold trimChars
  rw [dropWhile_isBlank_of_head? hhead, dropWhile_isBlank_of_head?, List.reverse_reverse]
  rwa [List.head?_reverse]

/-- What has no blank in it is not trimmed. -/
theorem trimChars_of_forall {s : List Char} (h : ∀ c ∈ s, isBlank c = false) :
    trimChars s = s :=
  trimChars_of_ends (fun c hc => h c (List.mem_of_head? hc))
    fun c hc => h c (List.mem_of_getLast? hc)

/-- **Blanks that were put around a text do not matter.** -/
theorem trimChars_pad {lead trail : List Char} (hlead : ∀ c ∈ lead, isBlank c = true)
    (htrail : ∀ c ∈ trail, isBlank c = true) (s : List Char) :
    trimChars (lead ++ s ++ trail) = trimChars s := by
  have hnil : (trail ++ []).dropWhile isBlank = [] := List.dropWhile_append_of_pos htrail
  rw [List.append_nil] at hnil
  unfold trimChars
  rw [List.append_assoc, List.dropWhile_append_of_pos hlead, List.dropWhile_append]
  split
  · next hempty =>
    -- there is nothing but blanks, and both sides are empty
    rw [hnil, List.isEmpty_iff.mp hempty]
  · rw [List.reverse_append, List.dropWhile_append_of_pos fun c hc =>
      htrail c (List.mem_reverse.mp hc)]

/-- **Trimming takes blanks off both ends** and nothing else: a text is its trimmed
text with blanks around it. -/
theorem exists_eq_pad_trimChars (s : List Char) : ∃ lead trail,
    (∀ c ∈ lead, isBlank c = true) ∧ (∀ c ∈ trail, isBlank c = true)
      ∧ s = lead ++ trimChars s ++ trail := by
  have hblank (t : List Char) : ∀ c ∈ t.takeWhile isBlank, isBlank c = true :=
    List.all_eq_true.mp List.all_takeWhile
  let inner := (s.dropWhile isBlank).reverse
  have hinner : s.dropWhile isBlank = trimChars s ++ (inner.takeWhile isBlank).reverse := by
    rw [trimChars, ← List.reverse_append, List.takeWhile_append_dropWhile, List.reverse_reverse]
  refine ⟨s.takeWhile isBlank, (inner.takeWhile isBlank).reverse, hblank s,
    fun c hc => hblank inner c (List.mem_reverse.mp hc), ?_⟩
  rw [List.append_assoc, ← hinner, List.takeWhile_append_dropWhile]

/-- A trimmed text is not trimmed again. -/
theorem trimChars_trimChars (s : List Char) : trimChars (trimChars s) = trimChars s := by
  obtain ⟨lead, trail, hlead, htrail, hs⟩ := exists_eq_pad_trimChars s
  rw [← trimChars_pad hlead htrail, ← hs]

/-- A character that is no blank is never dropped from the front. -/
theorem mem_dropWhile_isBlank {s : List Char} {c : Char} (hc : c ∈ s)
    (hblank : isBlank c = false) : c ∈ s.dropWhile isBlank := by
  induction s with
  | nil => exact hc
  | cons x s ih =>
    rw [List.dropWhile_cons]
    by_cases hx : isBlank x = true
    · rw [if_pos hx]
      rcases List.mem_cons.mp hc with rfl | hc
      · exact absurd hx (by rw [hblank]; exact Bool.false_ne_true)
      · exact ih hc
    · rwa [if_neg hx]

/-- **Trimming takes nothing but blanks.** -/
theorem mem_trimChars {s : List Char} {c : Char} (hc : c ∈ s) (hblank : isBlank c = false) :
    c ∈ trimChars s :=
  List.mem_reverse.mpr (mem_dropWhile_isBlank
    (List.mem_reverse.mpr (mem_dropWhile_isBlank hc hblank)) hblank)

/-- No digit is a blank. -/
theorem isBlank_of_isDigit {c : Char} (h : c.isDigit = true) : isBlank c = false := by
  rw [Char.isDigit_iff_toNat] at h
  have hzero : '0'.toNat = 48 := rfl
  have hnine : '9'.toNat = 57 := rfl
  unfold isBlank
  simp only [Bool.or_eq_false_iff, Bool.and_eq_false_imp, decide_eq_true_eq,
    decide_eq_false_iff_not, beq_eq_false_iff_ne, ne_eq]
  omega

end Gatehouse.Text
