import Mathlib
import Gatehouse.Bytes

/-!
# Text as bytes and back

A text is sent as its UTF-8 encoding, and a header value is read character
by character. The two are inverse to each other where it matters: a value
that can be read at all is ASCII, and the text that was read from it encodes
to the value again.
-/

namespace Gatehouse.Bytes

/-! ## Encoding -/

/-- The list that a byte array is copied to holds what the array holds. -/
theorem toList_loop (bs : ByteArray) (i : Nat) (done : List UInt8) :
    ByteArray.toList.loop bs i done = done.reverse ++ bs.data.toList.drop i := by
  induction i, done using ByteArray.toList.loop.induct bs with
  | case1 i done h ih =>
    have hlength : i < bs.data.toList.length := h
    have hget : bs.get! i = bs.data.toList[i] := getElem!_pos bs.data i h
    rw [ByteArray.toList.loop, if_pos h, ih, List.drop_eq_getElem_cons hlength, hget]
    simp
  | case2 i done h =>
    rw [ByteArray.toList.loop, if_neg h, List.drop_eq_nil_of_le (Nat.le_of_not_lt h),
      List.append_nil]

/-- **A text is encoded character by character.** -/
theorem ofString_ofList (cs : List Char) :
    ofString (String.ofList cs) = cs.flatMap String.utf8EncodeChar := by
  have hlist : ∀ bs : ByteArray, bs.toList = bs.data.toList := fun bs =>
    toList_loop bs 0 []
  show (String.ofList cs).toByteArray.toList = _
  rw [hlist, String.toByteArray_ofList]
  exact List.toList_data_toByteArray

/-- The encoding of two texts, one behind the other. -/
theorem ofString_append (s t : String) : ofString (s ++ t) = ofString s ++ ofString t := by
  have hlist (u : String) : ofString u = u.toList.flatMap String.utf8EncodeChar := by
    rw [← ofString_ofList, String.ofList_toList]
  rw [hlist, hlist, hlist, String.toList_append, List.flatMap_append]

/-- An ASCII character is encoded as the byte of its number. -/
theorem toNat_of_mem_utf8EncodeChar {c : Char} {b : UInt8} (hc : c.toNat ≤ 127)
    (hb : b ∈ String.utf8EncodeChar c) : b.toNat = c.toNat := by
  have hsize : c.val ≤ 127 := UInt32.le_iff_toNat_le.mpr hc
  rw [String.utf8EncodeChar_eq_singleton (Char.utf8Size_eq_one_iff.mpr hsize),
    List.mem_singleton] at hb
  rw [hb, UInt32.toNat_toUInt8]
  exact Nat.mod_eq_of_lt (Nat.lt_of_le_of_lt hc (by decide))

/-! ## Header values -/

/-- A text byte is the encoding of the character of its number. -/
theorem utf8EncodeChar_of_isTextByte {b : UInt8} (h : isTextByte b = true) :
    String.utf8EncodeChar (Char.ofNat b.toNat) = [b] := by
  have hsmall : b.toNat ≤ 127 := by
    simp only [isTextByte, Bool.or_eq_true, Bool.and_eq_true, decide_eq_true_eq,
      beq_iff_eq] at h
    omega
  have hval : (Char.ofNat b.toNat).val.toNat = b.toNat := by
    have hvalid : b.toNat.isValidChar := Or.inl (by omega)
    unfold Char.ofNat
    rw [dif_pos hvalid]
    rfl
  have hsize : (Char.ofNat b.toNat).val ≤ 127 := by
    rw [UInt32.le_iff_toNat_le, hval]
    exact hsmall
  rw [String.utf8EncodeChar_eq_singleton (Char.utf8Size_eq_one_iff.mpr hsize)]
  have hbyte : (Char.ofNat b.toNat).val.toUInt8 = b := by
    apply UInt8.toNat_inj.mp
    rw [UInt32.toNat_toUInt8, hval]
    omega
  rw [hbyte]

theorem ofString_latin1 {b : Bytes} (h : b.all isTextByte = true) :
    ofString b.latin1 = b := by
  unfold latin1
  rw [ofString_ofList, List.flatMap_map]
  induction b with
  | nil => rfl
  | cons x xs ih =>
    rw [List.all_cons, Bool.and_eq_true] at h
    rw [List.flatMap_cons, utf8EncodeChar_of_isTextByte h.1, ih h.2]
    rfl

/-- **What was read from a header value encodes to the value.** -/
theorem ofString_of_text? {b : Bytes} {s : String} (h : b.text? = some s) :
    ofString s = b := by
  obtain ⟨htext, rfl⟩ := text?_eq_some_iff.mp h
  exact ofString_latin1 htext

/-- **A text of visible ASCII, spaces and tabs is read from a header value** as
it was written there. -/
theorem text?_ofString {cs : List Char}
    (h : ∀ c ∈ cs, 32 ≤ c.toNat ∧ c.toNat < 127 ∨ c.toNat = 9) :
    (ofString (String.ofList cs)).text? = some (String.ofList cs) := by
  have hbyte : ∀ c ∈ cs, (UInt8.ofNat c.toNat).toNat = c.toNat := by
    intro c hc
    have hsmall : c.toNat < 256 := by
      have := h c hc
      omega
    exact UInt8.toNat_ofNat_of_lt hsmall
  have htext : (cs.map fun c => UInt8.ofNat c.toNat).all isTextByte = true := by
    rw [List.all_map, List.all_eq_true]
    intro c hc
    have hc' := h c hc
    unfold isTextByte
    simp only [Function.comp_apply, hbyte c hc, Bool.or_eq_true, Bool.and_eq_true,
      decide_eq_true_eq, beq_iff_eq]
    exact hc'
  have hlatin : latin1 (cs.map fun c => UInt8.ofNat c.toNat) = String.ofList cs := by
    unfold latin1
    rw [List.map_map]
    congr 1
    conv_rhs => rw [← List.map_id cs]
    refine List.map_congr_left fun c hc => ?_
    rw [Function.comp_apply, hbyte c hc, Char.ofNat_toNat, id]
  rw [← hlatin, ofString_latin1 htext, text?, if_pos htext]

/-- What is put behind a text is read behind it. -/
theorem text?_append {b rest : Bytes} {s : String} (h : b.text? = some s)
    (hrest : rest.all isTextByte = true) : (b ++ rest).text? = some (s ++ rest.latin1) := by
  obtain ⟨hb, rfl⟩ := text?_eq_some_iff.mp h
  refine text?_eq_some_iff.mpr ⟨?_, ?_⟩
  · rw [List.all_append, hb, hrest]
    rfl
  · unfold latin1
    rw [List.map_append, String.ofList_append]

end Gatehouse.Bytes
