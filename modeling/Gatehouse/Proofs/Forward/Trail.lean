import Gatehouse.Proofs.Forward.Account
import Gatehouse.Proofs.Text

/-!
# How much of a trail is passed on

The hops that a request has come through stand in `X-Forwarded-For`, which is
a list: its entries are divided by commas, and a list may be spread over
several lines, which are then read one after the other. A forwarder that
trusts what comes in puts the peer of the connection behind it.

What it puts the peer behind is not the list, but the first line of it, and
that only if the line can be read as text. The new line then takes the place
of all others. So the trail is passed on whole exactly if there is no more
than one line, if that is text, and if the client does not have it end with
the connection (`KeepsTrail`). Otherwise hops are lost, and those that are
left look like a whole trail.
-/

namespace Gatehouse.Forward

open Http Text Chain Exchange

variable {β : Type}

/-! ## Lists in headers -/

/-- Whether a byte is a space or a tab. -/
def isPad (b : UInt8) : Bool := b.toNat == 32 || b.toNat == 9

/-- A value without the spaces and tabs at its ends. -/
def unpad (v : Bytes) : Bytes :=
  ((v.dropWhile isPad).reverse.dropWhile isPad).reverse

/-- **The entries of a line**: its pieces between commas. -/
def entries (v : Bytes) : List Bytes := (splitAt (·.toNat == 44) v).map unpad

/-- **The trail of a request**: the entries of all lines, in order. -/
def trail (h : Headers) : List Bytes := (h.values Country.forwardedFor).flatMap entries

/-- There is always an entry, which may be empty. -/
theorem entries_ne_nil (v : Bytes) : entries v ≠ [] :=
  List.map_eq_nil_iff.not.mpr (splitAt_ne_nil _ v)

/-! Every byte of an address comes behind the comma, and so behind the blanks. -/

section Address

variable {w : Bytes}

theorem unpad_of_forall (h : ∀ b ∈ w, 44 < b.toNat) : unpad w = w := by
  have hdrop (s : Bytes) (hs : ∀ b ∈ s, 44 < b.toNat) : s.dropWhile isPad = s := by
    refine List.dropWhile_eq_self_iff.mpr fun hpos => ?_
    have hhead := hs _ (List.getElem_mem hpos)
    simp only [isPad, Bool.or_eq_true, beq_iff_eq]
    omega
  unfold unpad
  rw [hdrop w h, hdrop w.reverse fun b hb => h b (List.mem_reverse.mp hb),
    List.reverse_reverse]

theorem entries_of_forall (h : ∀ b ∈ w, 44 < b.toNat) : entries w = [w] := by
  have hsplit : splitAt (fun b : UInt8 => b.toNat == 44) w = [w] :=
    splitAt_of_forall fun b hb => beq_eq_false_iff_ne.mpr (Nat.ne_of_gt (h b hb))
  unfold entries
  rw [hsplit, List.map_singleton, unpad_of_forall h]

/-- **What is put behind a line** with a comma and a space is one more
entry. -/
theorem entries_append (v : Bytes) (h : ∀ b ∈ w, 44 < b.toNat) :
    entries (v ++ 44 :: 32 :: w) = entries v ++ [w] := by
  have hspace : entries (32 :: w) = [w] := by
    have hsplit : splitAt (fun b : UInt8 => b.toNat == 44) (32 :: w) = [32 :: w] := by
      refine splitAt_of_forall fun b hb => beq_eq_false_iff_ne.mpr ?_
      rcases List.mem_cons.mp hb with rfl | hb
      · decide
      · exact Nat.ne_of_gt (h b hb)
    unfold entries
    rw [hsplit, List.map_singleton]
    exact congrArg List.singleton (unpad_of_forall h)
  rw [← hspace]
  unfold entries
  rw [splitAt_append_sep (by decide), List.map_append]

/-- The bytes of an address. -/
theorem lt_of_mem_ofString_toText {a : Address} :
    ∀ b ∈ Bytes.ofString a.toText, 44 < b.toNat := by
  intro b hb
  unfold Address.toText at hb
  rw [Bytes.ofString_ofList] at hb
  obtain ⟨c, hc, hb⟩ := List.mem_flatMap.mp hb
  obtain ⟨hlow, hhigh⟩ := toNat_of_isAddressChar (Address.isAddressChar_of_mem c hc)
  rw [Bytes.toNat_of_mem_utf8EncodeChar (by omega) hb]
  omega

end Address

/-! ## The new line -/

/-- **The line that a forwarder reads**: the first, if it is text. -/
def readLine? (h : Headers) : Option Bytes :=
  (h.get? Country.forwardedFor).filter (·.all Bytes.isTextByte)

/-- The entries of that line. -/
def readTrail (h : Headers) : List Bytes := (readLine? h).toList.flatMap entries

theorem text?_eq_map_readLine? (h : Headers) :
    h.text? Country.forwardedFor = (readLine? h).map Bytes.latin1 := by
  unfold Headers.text? readLine?
  cases h.get? Country.forwardedFor with
  | none => rfl
  | some v =>
    rw [Option.bind_some, Option.filter_some, Bytes.text?]
    split <;> rfl

/-- The peer stands behind what was read. -/
theorem ofString_extendTrail (h : Headers) (a : Address) :
    Bytes.ofString (extendTrail h a) = match readLine? h with
      | some v => v ++ 44 :: 32 :: Bytes.ofString a.toText
      | none => Bytes.ofString a.toText := by
  unfold extendTrail
  rw [text?_eq_map_readLine?]
  cases hread : readLine? h with
  | none => rfl
  | some v =>
    have htext := (Option.filter_eq_some_iff.mp hread).2
    have hcomma : Bytes.ofString ", " = [44, 32] := by decide +kernel
    show Bytes.ofString (v.latin1 ++ ", " ++ a.toText) = _
    rw [Bytes.ofString_append, Bytes.ofString_append, Bytes.ofString_latin1 htext, hcomma,
      List.append_assoc]
    rfl

/-- What can be read as text can be written. -/
theorem isValueByte_of_isTextByte {b : UInt8} (h : Bytes.isTextByte b = true) :
    isValueByte b = true := by
  unfold Bytes.isTextByte at h
  unfold isValueByte
  simp only [Bool.or_eq_true, Bool.and_eq_true, decide_eq_true_eq, beq_iff_eq,
    bne_iff_ne] at h ⊢
  omega

theorem fieldValue?_extendTrail (h : Headers) (a : Address) :
    fieldValue? (Bytes.ofString (extendTrail h a))
      = some (Bytes.ofString (extendTrail h a)) := by
  have haddress : ∀ b ∈ Bytes.ofString a.toText, isValueByte b = true := by
    have hwritten := fieldValue?_toText a
    unfold fieldValue? at hwritten
    split at hwritten
    · next hall => exact List.all_eq_true.mp hall
    · cases hwritten
  refine if_pos (List.all_eq_true.mpr ?_)
  rw [ofString_extendTrail]
  cases hread : readLine? h with
  | none => exact haddress
  | some v =>
    have htext := List.all_eq_true.mp (Option.filter_eq_some_iff.mp hread).2
    intro b hb
    rcases List.mem_append.mp hb with hb | hb
    · exact isValueByte_of_isTextByte (htext b hb)
    · rcases List.mem_cons.mp hb with rfl | hb
      · decide
      · rcases List.mem_cons.mp hb with rfl | hb
        · decide
        · exact haddress b hb

/-- **One line takes the place of all others**: what could be read, and the
peer. -/
theorem values_withTrail_self (h : Headers) (p : Endpoint) :
    ∃ v, (withTrail h (some p)).values Country.forwardedFor = [v]
      ∧ entries v = readTrail h ++ [Bytes.ofString p.address.toText] := by
  refine ⟨Bytes.ofString (extendTrail h p.address), ?_, ?_⟩
  · unfold withTrail
    dsimp only
    rw [fieldValue?_extendTrail, Headers.values_insert, if_pos rfl]
  · rw [ofString_extendTrail]
    unfold readTrail
    cases readLine? h with
    | none => exact entries_of_forall lt_of_mem_ofString_toText
    | some v =>
      rw [Option.toList_some, List.flatMap_singleton]
      exact entries_append v lt_of_mem_ofString_toText

/-! ## The whole trail -/

/-- **A trail that is passed on whole**: there is no line, or there is one
that is text and does not end with the connection. -/
def KeepsTrail (h : Headers) : Prop :=
  h.values Country.forwardedFor = []
    ∨ Country.forwardedFor ∉ declaredHops h
      ∧ ∃ v, h.values Country.forwardedFor = [v] ∧ v.all Bytes.isTextByte = true

/-- Lines without entries are no lines. -/
theorem flatMap_entries_eq_nil_iff {lines : List Bytes} :
    lines.flatMap entries = [] ↔ lines = [] := by
  rw [List.flatMap_eq_nil_iff]
  refine ⟨fun h => List.eq_nil_iff_forall_not_mem.mpr fun v hv => ?_, ?_⟩
  · exact entries_ne_nil v (h v hv)
  · rintro rfl v hv
    cases hv

/-- **What is read is the whole trail** in these cases and in no others. -/
theorem readTrail_withoutHops_eq_iff (h : Headers) :
    readTrail (withoutHops h) = trail h ↔ KeepsTrail h := by
  have hvalues : (withoutHops h).values Country.forwardedFor
      = if Country.forwardedFor ∈ declaredHops h then []
        else h.values Country.forwardedFor := by
    rw [values_withoutHops]
    simp only [List.mem_append, (by decide : Country.forwardedFor ∉ hopNames), false_or]
  unfold readTrail readLine? trail KeepsTrail Headers.get?
  rw [hvalues]
  cases hlines : h.values Country.forwardedFor with
  | nil => simp
  | cons v rest =>
    have hsome : (v :: rest).flatMap entries ≠ [] :=
      flatMap_entries_eq_nil_iff.not.mpr (List.cons_ne_nil v rest)
    by_cases hdeclared : Country.forwardedFor ∈ declaredHops h
    · rw [if_pos hdeclared]
      refine iff_of_false hsome.symm ?_
      rintro (hnil | ⟨hkept, -⟩)
      · cases hnil
      · exact hkept hdeclared
    · rw [if_neg hdeclared, List.head?_cons]
      by_cases htext : v.all Bytes.isTextByte = true
      · -- the first line is read, so it must be the only one
        have hread : ((some v).filter (·.all Bytes.isTextByte)).toList.flatMap entries
            = entries v := by
          simp [Option.filter_some, htext]
        rw [hread, List.flatMap_cons, List.self_eq_append_right, flatMap_entries_eq_nil_iff]
        refine ⟨fun hrest => Or.inr ⟨hdeclared, v, by rw [hrest], htext⟩, ?_⟩
        rintro (hnil | ⟨-, w, hone, -⟩)
        · cases hnil
        · exact (List.cons.inj hone).2
      · have hread : ((some v).filter (·.all Bytes.isTextByte)).toList.flatMap entries
            = [] := by
          simp [Option.filter_some, htext]
        rw [hread]
        refine iff_of_false hsome.symm ?_
        rintro (hnil | ⟨-, w, hone, hw⟩)
        · cases hnil
        · exact htext ((List.cons.inj hone).1 ▸ hw)

/-! ## What the backend is told -/

/-- **A trusting forwarder tells the backend one line**: the entries of what
it reads of the trail, and the peer. -/
theorem values_trail_of_outgoing {f : Forwarder} {r out : Request} {p : Endpoint}
    (htrust : f.trustIncoming = true) (hpeer : r.peer = some p)
    (hout : f.outgoing? r = some out) :
    ∃ v, out.headers.values Country.forwardedFor = [v]
      ∧ entries v
        = readTrail (withoutHops r.headers) ++ [Bytes.ofString p.address.toText] := by
  obtain ⟨uri, -, rfl⟩ := Option.map_eq_some_iff.mp hout
  obtain ⟨v, hline, hentries⟩ := values_withTrail_self (withoutHops r.headers) p
  refine ⟨v, ?_, hentries⟩
  show (withOrigin (withoutHops r.headers) r.peer f.trustIncoming).values
    Country.forwardedFor = [v]
  rw [htrust, hpeer]
  unfold withOrigin
  dsimp only
  rw [values_withDefault _ (by decide), values_withDefault _ (by decide), if_pos rfl, hline]

/-- **How much of a trail the backend is told.** Take a forwarder that trusts
what comes in, any line and any scene, and a request from a known peer with
any headers. The backend is told one line: the entries of the first line that
came in, if that is text and does not end with the connection, and behind
them the peer. That is the trail that came in followed by the peer if and
only if the trail is passed on whole (`KeepsTrail`). The backend does meet
the request if it has a path and can be addressed. -/
theorem Forwarder.handle_trail (f : Forwarder) (files : Files.Disk)
    (choose : Cache.Chooser) (l : Line β) (s : Scene β) (r : Request) (p : Endpoint)
    (htrust : f.trustIncoming = true) (hpeer : r.peer = some p) :
    let met := meetings (f.handle (world files choose) (dial (noting l))) r s
    let peer := Bytes.ofString p.address.toText
    (∀ out ∈ met,
      (∃ v, out.headers.values Country.forwardedFor = [v])
      ∧ trail out.headers = readTrail (withoutHops r.headers) ++ [peer]
      ∧ (trail out.headers = trail r.headers ++ [peer] ↔ KeepsTrail r.headers))
    ∧ (met.length = 1 ↔ Forwarder.hasPath r = true ∧ f.target.uriFor? r.uri ≠ none) := by
  intro met peer
  have hmet : met = (if Forwarder.hasPath r then f.outgoing? r else none).toList :=
    meetings_handle files choose f l r s
  refine ⟨fun out hout => ?_, ?_⟩
  · rw [hmet, Option.mem_toList] at hout
    split at hout
    · obtain ⟨v, hline, hentries⟩ := values_trail_of_outgoing htrust hpeer hout
      have htrail : trail out.headers = readTrail (withoutHops r.headers) ++ [peer] := by
        unfold trail
        rw [hline, List.flatMap_singleton, hentries]
      refine ⟨⟨v, hline⟩, htrail, ?_⟩
      rw [htrail, List.append_left_inj, readTrail_withoutHops_eq_iff]
    · cases hout
  · rw [hmet]
    unfold Forwarder.outgoing?
    cases Forwarder.hasPath r <;> cases f.target.uriFor? r.uri <;> simp

/-- A forwarder that trusts what comes in. -/
def trusting : Forwarder := { germanGate.forwarder with trustIncoming := true }

/-- The trail of a client behind two hops, in one line. -/
def inOneLine : Request :=
  telling [⟨Country.forwardedFor, Bytes.ofString "198.51.100.7, 192.0.2.10"⟩]

/-- The same trail, in two lines. -/
def inTwoLines : Request :=
  telling [⟨Country.forwardedFor, Bytes.ofString "198.51.100.7"⟩,
    ⟨Country.forwardedFor, Bytes.ofString "192.0.2.10"⟩]

/-- What the backend is told of one line. -/
theorem Forwarder.handle_trail_inOneLine :
    let met := meetings (trusting.handle (world .empty fun _ => 0)
      (dial (noting answering))) inOneLine opening
    trusting.trustIncoming = true
      ∧ inOneLine.peer = some ⟨.v4 ⟨203, 0, 113, 1⟩, 4000⟩
      ∧ KeepsTrail inOneLine.headers
      ∧ ∃ out ∈ met, trail out.headers
        = ["198.51.100.7", "192.0.2.10", "203.0.113.1"].map Bytes.ofString := by
  intro met
  obtain ⟨htold, hmet⟩ := Forwarder.handle_trail trusting .empty (fun _ => 0) answering
    opening inOneLine ⟨.v4 ⟨203, 0, 113, 1⟩, 4000⟩ rfl rfl
  have hkeeps : KeepsTrail inOneLine.headers :=
    Or.inr ⟨by decide +kernel, Bytes.ofString "198.51.100.7, 192.0.2.10",
      by decide +kernel, by decide +kernel⟩
  have hlength := hmet.mpr ⟨by decide +kernel, by decide +kernel⟩
  obtain ⟨out, hout⟩ := List.exists_mem_of_length_pos (hlength.symm ▸ Nat.one_pos)
  refine ⟨rfl, rfl, hkeeps, out, hout, ?_⟩
  rw [(htold out hout).2.2.mpr hkeeps]
  decide +kernel

/-- **Of two lines the second is lost**: the backend is told that the request
came from its client to the peer directly. -/
theorem Forwarder.trail_truncated :
    let met := meetings (trusting.handle (world .empty fun _ => 0)
      (dial (noting answering))) inTwoLines opening
    trail inTwoLines.headers = ["198.51.100.7", "192.0.2.10"].map Bytes.ofString
      ∧ inTwoLines.peer = some ⟨.v4 ⟨203, 0, 113, 1⟩, 4000⟩
      ∧ ∃ out ∈ met, trail out.headers
        = ["198.51.100.7", "203.0.113.1"].map Bytes.ofString := by
  refine ⟨by decide +kernel, rfl, by decide +kernel⟩

end Gatehouse.Forward
