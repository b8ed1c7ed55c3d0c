import Gatehouse.Country.Client
import Gatehouse.Proofs.Address.Groups

/-!
# A client is found under any spelling of its address

An address comes to the gate as text, and the text may be that of the address,
that of an endpoint, with a port behind it, or an address in brackets
(`Address.Spelled`). The three notations share the colon, which divides groups in
one and stands in front of the port in the other, and the reader tries one after
the other. So it has to be shown of each text that the notations before its own
refuse it: an IPv6 address has no dot before its first colon, and what is in
brackets is no address.

Every spelling of every address is then read as that address, with blanks around
it or without, and a client that stands in front of a list of addresses is the
one that the gate takes (`Country.clientAddress_spelled`).
-/

namespace Gatehouse

open Text

/-! ## Characters -/

theorem IPv6.colon_mem_toChars (ip : IPv6) : ':' ∈ ip.toChars := by
  unfold toChars
  split
  · exact List.mem_append_left _ (by decide)
  · unfold shortChars
    dsimp only
    split
    · exact List.mem_append_left _ (List.mem_append_right _ List.mem_cons_self)
    · unfold groups
      rw [groupChars_cons_cons]
      exact List.mem_append_right _ List.mem_cons_self

/-- Only an address that carries another is written with dots. -/
theorem IPv6.ne_dot_of_mem_toChars {ip : IPv6} (h : ip.mapped? = none) :
    ∀ c ∈ ip.toChars, c ≠ '.' := by
  have hgroups (gs : List UInt16) : ∀ c ∈ groupChars gs, c ≠ '.' := by
    refine forall_mem_intercalate (by simp) fun piece hpiece c hc => ?_
    obtain ⟨g, -, rfl⟩ := List.mem_map.mp hpiece
    rintro rfl
    cases isHex_of_mem_toDigits _ hc
  intro c hc
  unfold toChars at hc
  rw [h] at hc
  dsimp only at hc
  unfold shortChars at hc
  dsimp only at hc
  split at hc
  · rcases List.mem_append.mp hc with hc | hc
    · rcases List.mem_append.mp hc with hc | hc
      · exact hgroups _ c hc
      · rintro rfl
        exact absurd hc (by decide)
    · exact hgroups _ c hc
  · exact hgroups _ c hc

namespace Address

/-- A character that addresses do not have is not in one. -/
theorem ne_of_mem_toChars {a : Address} {c x : Char} (hc : c ∈ a.toChars)
    (hx : isAddressChar x = false) : c ≠ x := by
  rintro rfl
  rw [isAddressChar_of_mem c hc] at hx
  cases hx

theorem exists_toChars_cons (a : Address) : ∃ c cs, a.toChars = c :: cs := by
  refine List.exists_cons_of_ne_nil fun hnil => ?_
  cases a with
  | v4 ip =>
    rw [toChars, IPv4.toChars_eq] at hnil
    simp at hnil
  | v6 ip =>
    have hcolon : ':' ∈ (Address.v6 ip).toChars := ip.colon_mem_toChars
    rw [hnil] at hcolon
    cases hcolon

/-- No address begins with a bracket, whatever is put behind it. -/
theorem toChars_append_ne (a : Address) (s rest : List Char) :
    a.toChars ++ s ≠ '[' :: rest := by
  obtain ⟨c, cs, hcs⟩ := a.exists_toChars_cons
  intro h
  rw [hcs, List.cons_append] at h
  exact ne_of_mem_toChars (hcs ▸ List.mem_cons_self) rfl (List.cons.inj h).1

/-- **An address is read back.** -/
theorem parseChars?_toChars (a : Address) : parseChars? a.toChars = some a := by
  unfold parseChars?
  cases a with
  | v4 ip =>
    rw [show IPv4.parse? (Address.v4 ip).toChars = _ from IPv4.parse?_toChars ip]
  | v6 ip =>
    rw [show IPv4.parse? (Address.v6 ip).toChars = none from
      IPv4.parse?_of_mem ip.colon_mem_toChars rfl (by decide)]
    show (IPv6.parse? ip.toChars).map _ = _
    rw [IPv6.parse?_toChars, Option.map_some]

end Address

/-! ## Endpoints -/

namespace Endpoint

/-- What does not begin with a bracket is cut at its first colon. -/
theorem parseChars?_eq {s : List Char} (h : ∀ rest, s ≠ '[' :: rest) :
    parseChars? s = (cutAt? (· == ':') s).bind fun (ip, port) =>
      (IPv4.parse? ip).bind fun ip => (port? port).map fun port => ⟨.v4 ip, port⟩ := by
  unfold parseChars?
  split
  · next rest => exact absurd rfl (h rest)
  · cases cutAt? (· == ':') s with
    | none => rfl
    | some p =>
      show (IPv4.parse? p.1).bind _ = (IPv4.parse? p.1).bind _
      congr 1
      funext ip
      cases port? p.2 <;> rfl

theorem port?_toDigits (port : UInt16) : port? (Nat.toDigits 10 port.toNat) = some port := by
  unfold port?
  rw [Decimal.digits?_toDigits (Nat.le_of_lt_succ port.toNat_lt), Option.map_some,
    UInt16.ofNat_toNat]

/-- What stands in brackets is read up to the bracket. -/
theorem parseChars?_bracketed (ip : IPv6) (s : List Char) :
    parseChars? ('[' :: (ip.toChars ++ ']' :: s)) = match s with
      | ':' :: port => do return ⟨.v6 ip, ← port? port⟩
      | _ => none := by
  have hne {x : Char} (hx : isAddressChar x = false) : ∀ c ∈ ip.toChars, (c == x) = false :=
    fun c hc => beq_eq_false_iff_ne.mpr (Address.ne_of_mem_toChars (a := .v6 ip) hc hx)
  have hinner : bracketed? ip.toChars = some ip := by
    unfold bracketed?
    rw [cutAt?_of_forall (hne rfl)]
    exact IPv6.parse?_toChars ip
  show (cutAt? (· == ']') (ip.toChars ++ ']' :: s)).bind _ = _
  rw [cutAt?_append_cons (hne rfl) rfl]
  show (bracketed? ip.toChars).bind _ = _
  rw [hinner]
  rfl

/-- **An endpoint is read back.** -/
theorem parseChars?_toChars (e : Endpoint) : parseChars? e.toChars = some e := by
  obtain ⟨a, port⟩ := e
  cases a with
  | v4 ip =>
    have hcolon : ∀ x ∈ ip.toChars, (x == ':') = false := fun x hx =>
      beq_eq_false_iff_ne.mpr (IPv4.ne_of_mem_toChars hx (by decide) (by decide))
    have hbracket (rest : List Char) :
        ip.toChars ++ ':' :: Nat.toDigits 10 port.toNat ≠ '[' :: rest :=
      (Address.v4 ip).toChars_append_ne _ rest
    show parseChars? (ip.toChars ++ ':' :: Nat.toDigits 10 port.toNat) = _
    rw [parseChars?_eq hbracket, cutAt?_append_cons hcolon rfl]
    show (IPv4.parse? ip.toChars).bind _ = _
    rw [IPv4.parse?_toChars, Option.bind_some, port?_toDigits, Option.map_some]
  | v6 ip =>
    have htext : toChars ⟨.v6 ip, port⟩
        = '[' :: (ip.toChars ++ ']' :: ':' :: Nat.toDigits 10 port.toNat) := by
      simp [toChars]
    rw [htext, parseChars?_bracketed]
    show (port? (Nat.toDigits 10 port.toNat)).bind _ = _
    rw [port?_toDigits]
    rfl

/-- **An address is no endpoint**: what is in front of its first colon is no IPv4
address. -/
theorem parseChars?_address (a : Address) : parseChars? a.toChars = none := by
  have hbracket (rest : List Char) : a.toChars ≠ '[' :: rest := by
    have h := a.toChars_append_ne [] rest
    rwa [List.append_nil] at h
  rw [parseChars?_eq hbracket]
  cases a with
  | v4 ip =>
    have hcolon : ∀ x ∈ ip.toChars, (x == ':') = false := fun x hx =>
      beq_eq_false_iff_ne.mpr (IPv4.ne_of_mem_toChars hx (by decide) (by decide))
    show (cutAt? _ ip.toChars).bind _ = none
    rw [cutAt?_of_forall hcolon]
    rfl
  | v6 ip =>
    show (cutAt? _ ip.toChars).bind _ = none
    cases hmapped : ip.mapped? with
    | some v4 =>
      rw [IPv6.mapped?_eq_some_iff.mp hmapped, IPv6.toChars_toMapped]
      rfl
    | none =>
      cases hcut : cutAt? (· == ':') ip.toChars with
      | none => rfl
      | some p =>
        obtain ⟨c, -, hchars⟩ := eq_of_cutAt? hcut
        have hdot : ∀ c ∈ p.1, c ≠ '.' := fun c hc =>
          IPv6.ne_dot_of_mem_toChars hmapped c (hchars ▸ List.mem_append_left _ hc)
        show (IPv4.parse? p.1).bind _ = none
        rw [IPv4.parse?_of_no_dot hdot]
        rfl

end Endpoint

/-! ## Spellings -/

namespace Address

/-- **The spellings of an address**: as it is, with a port, or in brackets. -/
inductive Spelled (a : Address) : List Char → Prop
  | plain : Spelled a a.toChars
  | endpoint (port : UInt16) : Spelled a (Endpoint.toChars ⟨a, port⟩)
  | bracketed {ip : IPv6} (hip : a = .v6 ip) : Spelled a (['['] ++ ip.toChars ++ [']'])

/-- A spelling has the characters of addresses and brackets, which lie between the
dot and the last digit. -/
theorem Spelled.toNat_of_mem {a : Address} {s : List Char} (h : a.Spelled s) :
    ∀ c ∈ s, 46 ≤ c.toNat ∧ c.toNat ≤ 102 := by
  have haddress (a : Address) : ∀ c ∈ a.toChars, 46 ≤ c.toNat ∧ c.toNat ≤ 102 := fun c hc =>
    toNat_of_isAddressChar (isAddressChar_of_mem c hc)
  have hport (port : UInt16) : ∀ c ∈ ':' :: Nat.toDigits 10 port.toNat,
      46 ≤ c.toNat ∧ c.toNat ≤ 102 := by
    intro c hc
    rcases List.mem_cons.mp hc with rfl | hc
    · decide
    · exact toNat_of_isAddressChar
        (isAddressChar_of_mem_toDigits (by decide) (by decide) hc)
  have hbracketed (ip : IPv6) : ∀ c ∈ ['['] ++ ip.toChars ++ [']'],
      46 ≤ c.toNat ∧ c.toNat ≤ 102 := by
    intro c hc
    simp only [List.mem_append, List.mem_singleton] at hc
    rcases hc with (rfl | hc) | rfl
    · decide
    · exact haddress (.v6 ip) c hc
    · decide
  cases h with
  | plain => exact haddress a
  | endpoint port =>
    unfold Endpoint.toChars
    intro c hc
    cases a with
    | v4 ip => exact (List.mem_append.mp hc).elim (haddress (.v4 ip) c) (hport port c)
    | v6 ip => exact (List.mem_append.mp hc).elim (hbracketed ip c) (hport port c)
  | bracketed => exact hbracketed _

/-- **Every spelling is read** as the address that it spells. -/
theorem Spelled.ofHostChars? {a : Address} {s : List Char} (h : a.Spelled s)
    {lead trail : List Char} (hlead : ∀ c ∈ lead, isBlank c = true)
    (htrail : ∀ c ∈ trail, isBlank c = true) :
    Address.ofHostChars? (lead ++ s ++ trail) = some a := by
  have hblank : ∀ c ∈ s, isBlank c = false := by
    intro c hc
    have hc := h.toNat_of_mem c hc
    unfold isBlank
    simp only [Bool.or_eq_false_iff, Bool.and_eq_false_imp, decide_eq_true_eq,
      decide_eq_false_iff_not, beq_eq_false_iff_ne, ne_eq]
    omega
  unfold Address.ofHostChars?
  dsimp only
  rw [trimChars_pad hlead htrail, trimChars_of_forall hblank]
  cases h with
  | plain =>
    rw [Endpoint.parseChars?_address]
    dsimp only
    rw [parseChars?_toChars]
  | endpoint port => rw [Endpoint.parseChars?_toChars]
  | @bracketed ip hip =>
    have hendpoint : Endpoint.parseChars? (['['] ++ ip.toChars ++ [']']) = none := by
      rw [List.append_assoc]
      exact Endpoint.parseChars?_bracketed ip []
    have haddress : parseChars? (['['] ++ ip.toChars ++ [']']) = none := by
      rw [Option.eq_none_iff_forall_ne_some]
      intro b hb
      cases isAddressChar_of_parseChars? hb '[' List.mem_cons_self
    have hinner : unbracketed? (['['] ++ ip.toChars ++ [']']) = some ip.toChars := by
      show (if (ip.toChars ++ [']']).getLast? = some ']'
        then some (ip.toChars ++ [']']).dropLast else none) = _
      rw [if_pos List.getLast?_concat, List.dropLast_concat]
    rw [hendpoint]
    dsimp only
    rw [haddress, hinner, Option.bind_some, hip]
    exact parseChars?_toChars (.v6 ip)

end Address

/-! ## Clients -/

namespace Country

open Http

/-- **A client is found under any spelling of its address.**

Every address of either version, written by itself, with any port behind it, or in
brackets if it is of the newer version, is read as that address, whatever spaces and
tabs are around it. So is the first `X-Forwarded-For` value that begins with such a
text and either ends with it or goes on behind a comma, with any visible ASCII,
spaces and tabs. The other values have no part in it, nor has the peer. -/
theorem clientAddress_spelled {a : Address} {s : List Char} (lead trail : List Char)
    (hs : a.Spelled s) (hlead : ∀ c ∈ lead, c = ' ' ∨ c = '\t')
    (htrail : ∀ c ∈ trail, c = ' ' ∨ c = '\t') :
    Address.ofHost? (String.ofList (lead ++ s ++ trail)) = some a
      ∧ ∀ (headers : Headers) (peer : Option Endpoint) (rest : Bytes) (more : List Bytes),
        rest = [] ∨ (∃ list : Bytes, rest = Bytes.ofString "," ++ list
          ∧ list.all Bytes.isTextByte = true) →
        headers.values forwardedFor
          = (Bytes.ofString (String.ofList (lead ++ s ++ trail)) ++ rest) :: more →
        clientAddress headers peer = some a := by
  have hpad {pad : List Char} (h : ∀ c ∈ pad, c = ' ' ∨ c = '\t') :
      ∀ c ∈ pad, isBlank c = true := by
    intro c hc
    rcases h c hc with rfl | rfl <;> decide
  have hread : Address.ofHostChars? (lead ++ s ++ trail) = some a :=
    hs.ofHostChars? (hpad hlead) (hpad htrail)
  -- what is written in front of a comma is text without a comma
  have hchars : ∀ c ∈ lead ++ s ++ trail,
      (32 ≤ c.toNat ∧ c.toNat < 127 ∨ c.toNat = 9) ∧ c ≠ ',' := by
    have hpadChar {pad : List Char} (h : ∀ c ∈ pad, c = ' ' ∨ c = '\t') :
        ∀ c ∈ pad, (32 ≤ c.toNat ∧ c.toNat < 127 ∨ c.toNat = 9) ∧ c ≠ ',' := by
      intro c hc
      rcases h c hc with rfl | rfl <;> decide
    intro c hc
    simp only [List.mem_append] at hc
    rcases hc with (hc | hc) | hc
    · exact hpadChar hlead c hc
    · have hrange := hs.toNat_of_mem c hc
      refine ⟨Or.inl ⟨by omega, by omega⟩, ?_⟩
      rintro rfl
      exact absurd hrange.1 (by decide)
    · exact hpadChar htrail c hc
  refine ⟨?_, fun headers peer rest more hrest hvalues => ?_⟩
  · unfold Address.ofHost?
    rw [String.toList_ofList, hread]
  · have hcomma : Bytes.ofString "," = [44] := by decide +kernel
    have hrestText : rest.all Bytes.isTextByte = true := by
      rcases hrest with rfl | ⟨list, rfl, hlist⟩
      · rfl
      · rw [hcomma, List.all_append, hlist]
        rfl
    have htext := Bytes.text?_append
      (Bytes.text?_ofString fun c hc => (hchars c hc).1) hrestText
    have hentry : (String.ofList (lead ++ s ++ trail) ++ rest.latin1).toList.takeWhile
        (· != ',') = lead ++ s ++ trail := by
      have hcut : ∀ c ∈ lead ++ s ++ trail, (c != ',') = true := fun c hc =>
        bne_iff_ne.mpr (hchars c hc).2
      rw [String.toList_append, String.toList_ofList, List.takeWhile_append_of_pos hcut]
      refine List.append_right_eq_self.mpr ?_
      rcases hrest with rfl | ⟨list, rfl, -⟩
      · rfl
      · rw [hcomma, Bytes.latin1, String.toList_ofList]
        rfl
    have hfirst : headers.get? forwardedFor = some _ := congrArg List.head? hvalues
    unfold clientAddress
    rw [hfirst]
    show (Bytes.text? _).bind _ = _
    rw [htext, Option.bind_some, hentry, hread]

/-- An address with two runs of zeros, of which the first and longer one is left
out. -/
def sparse : Address := .v6 ⟨0x2001, 0xdb8, 0, 0, 0, 1, 0, 0⟩

/-- A client behind two proxies, the first of which has written a port. -/
theorem clientAddress_spelled_sparse :
    Address.ofHost? "\t [2001:db8::1:0:0]:443 " = some sparse
      ∧ clientAddress
        ⟨[⟨"x-forwarded-for", Bytes.ofString "\t [2001:db8::1:0:0]:443 , 10.0.0.2"⟩,
          ⟨"x-forwarded-for", Bytes.ofString "192.0.2.1"⟩]⟩
        (some ⟨.v4 ⟨203, 0, 113, 9⟩, 4000⟩) = some sparse := by
  have hspelled : sparse.Spelled "[2001:db8::1:0:0]:443".toList := .endpoint 443
  obtain ⟨hhost, hclient⟩ := clientAddress_spelled ['\t', ' '] [' '] hspelled (by simp)
    (by simp)
  refine ⟨hhost, hclient _ _ (Bytes.ofString ", 10.0.0.2") [Bytes.ofString "192.0.2.1"]
    (Or.inr ⟨Bytes.ofString " 10.0.0.2", by decide +kernel, by decide +kernel⟩) ?_⟩
  decide +kernel

end Country

end Gatehouse
