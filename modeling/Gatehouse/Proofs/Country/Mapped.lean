import Gatehouse.Country.Client
import Gatehouse.Proofs.Country.Verdict
import Gatehouse.Proofs.Database.Walk

/-!
# The verdict on both forms of an address

An IPv4 host can reach the server in two forms, as itself and as the IPv6
address that carries it, and should be judged alike in both. The zone is the
same: it is read off the carried address. But the lookup is asked about the
address in the form in which it came, so beyond the trusted zones the two
verdicts agree exactly as far as the lookup does
(`Filter.evaluate_toMapped`).

A database in which both forms lead to one part of the tree makes them agree.
A database without an alias makes them differ: there the carrying form of
every address has no record, so no list ever turns it away, and a client that
writes its address so, or reaches the server through a socket for both
versions, is past the filter (`Filter.evaluate_unlisted`).
-/

namespace Gatehouse.Country

/-! ## Verdicts and answers -/

namespace Verdict

/-- The verdict without the reason of a failed lookup, which is reported and
decides nothing. -/
def withoutReason : Verdict → Verdict
  | .lookupFailed _ => .lookupFailed ⟨""⟩
  | v => v

/-- The answer that a verdict without a reason was made from. -/
def found : Verdict → Option (Option String)
  | .trusted _ => none
  | .lookupFailed _ => none
  | .unknown => some none
  | .allowed country => some (some country)
  | .denied country _ => some (some country)

end Verdict

namespace Policy

variable {p : Policy} {x y : Answer}

/-- A country was found, and the policy turns it away. -/
def TurnsDown (p : Policy) (answer : Answer) : Prop :=
  ∃ country l, answer = .ok (some country) ∧ p.rejects country = some l

theorem isDenied_judge : (p.judge x).isDenied = true ↔ p.TurnsDown x := by
  constructor
  · intro h
    cases hv : p.judge x with
    | denied country l => exact ⟨country, l, judge_eq_denied_iff.mp hv⟩
    | _ =>
      rw [hv] at h
      cases h
  · rintro ⟨country, l, hx⟩
    rw [judge_eq_denied_iff.mpr hx]
    rfl

/-- What was found can be read off the verdict. -/
theorem found_judge : (p.judge x).withoutReason.found = x.toOption := by
  rcases x with e | _ | country
  · rfl
  · rfl
  · cases hrejects : p.rejects country with
    | some l =>
      rw [judge_eq_denied_iff.mpr ⟨rfl, hrejects⟩]
      rfl
    | none =>
      rw [judge_eq_allowed_iff.mpr ⟨rfl, hrejects⟩]
      rfl

/-- **Two answers come to the same verdict**, but for a reason, exactly if
the same was found. -/
theorem judge_withoutReason_eq_iff :
    (p.judge x).withoutReason = (p.judge y).withoutReason ↔ x.toOption = y.toOption := by
  constructor
  · intro h
    rw [← found_judge (p := p), ← found_judge (p := p), h]
  · intro h
    rcases x with e | a <;> rcases y with e' | a'
    · rfl
    · cases h
    · cases h
    · cases h
      rfl

end Policy

/-! ## Clients -/

/-- **A client that comes as an address**: it writes that address into the
header that names it, or there is no such header and its connection comes
from there. -/
def ComesAs (headers : Http.Headers) (peer : Option Endpoint) (a : Address) : Prop :=
  match headers.get? forwardedFor with
  | some value => value.text? = some a.toText
  | none => ∃ port, peer = some ⟨a, port⟩

/-- **The client has the address that it comes as**, in the form in which it
comes. -/
theorem clientAddress_of_comesAs {headers : Http.Headers} {peer : Option Endpoint}
    {ip : IPv4} {a : Address} (ha : a ∈ ip.forms) (h : ComesAs headers peer a) :
    clientAddress headers peer = some a := by
  unfold ComesAs at h
  unfold clientAddress
  cases hvalue : headers.get? forwardedFor with
  | some value =>
    rw [hvalue] at h
    have htext : value.text? = some a.toText := h
    have hcomma : a.toChars.takeWhile (· != ',') = a.toChars := by
      rw [List.takeWhile_eq_self_iff]
      intro c hc
      exact bne_iff_ne.mpr (Address.mem_toChars_form ha hc).2
    show value.text?.bind _ = _
    rw [htext, Option.bind_some, show a.toText.toList = a.toChars from String.toList_ofList,
      hcomma, Address.ofHostChars?_form ha]
  | none =>
    rw [hvalue] at h
    obtain ⟨port, rfl⟩ := h
    rfl

/-! ## Both forms -/

namespace Filter

/-- **The verdict on an IPv4 address in its two forms.**

Trusted zones are trusted in both forms. Elsewhere the verdicts are the same,
but for the reason of a failed lookup, exactly if the lookup finds the same
under both forms, and both or neither deny exactly if the lookup finds a
country that the policy turns down under both or under neither.

With a database: where both forms lead to one part of its tree the verdicts
are the same; where the lead `::ffff:0:0/96` leads nowhere, the form that
carries an address is never denied.

A client is judged by the form in which it comes. -/
theorem evaluate_toMapped (f : Filter) (ip : IPv4) :
    let plain := f.evaluate (.v4 ip)
    let carried := f.evaluate (.v6 ip.toMapped)
    (∀ z, carried = .trusted z ↔ plain = .trusted z)
      ∧ (carried.withoutReason = plain.withoutReason ↔ ip.zone.isTrusted = true
        ∨ (f.lookup (.v6 ip.toMapped)).toOption = (f.lookup (.v4 ip)).toOption)
      ∧ ((carried.isDenied = true ↔ plain.isDenied = true) ↔ ip.zone.isTrusted = true
        ∨ (f.policy.TurnsDown (f.lookup (.v6 ip.toMapped))
          ↔ f.policy.TurnsDown (f.lookup (.v4 ip))))
      ∧ (∀ d : Database, f.lookup = d.lookup →
        (d.Aliased → carried = plain)
          ∧ (d.carriedStart? = some d.metadata.nodeCount → carried.isDenied = false))
      ∧ ∀ headers peer a, a ∈ ip.forms → ComesAs headers peer a →
        clientAddress headers peer = some a := by
  intro plain carried
  have hclient (headers : Http.Headers) (peer : Option Endpoint) (a : Address)
      (ha : a ∈ ip.forms) (h : ComesAs headers peer a) :
      clientAddress headers peer = some a := clientAddress_of_comesAs ha h
  have hplain : plain = if ip.zone.isTrusted then .trusted ip.zone
      else f.policy.judge (f.lookup (.v4 ip)) := f.policy.evaluate_eq f.lookup _
  have hcarried : carried = if ip.zone.isTrusted then .trusted ip.zone
      else f.policy.judge (f.lookup (.v6 ip.toMapped)) := by
    show f.policy.evaluate f.lookup _ = _
    rw [Policy.evaluate_eq, Address.zone_toMapped]
  cases htrusted : ip.zone.isTrusted with
  | true =>
    rw [htrusted, if_pos rfl] at hplain hcarried
    have hsame : carried = plain := hcarried.trans hplain.symm
    refine ⟨fun _ => by rw [hsame], iff_of_true (by rw [hsame]) (Or.inl rfl),
      iff_of_true (by rw [hsame]) (Or.inl rfl), fun d _ => ⟨fun _ => hsame, fun _ => ?_⟩,
      hclient⟩
    rw [hcarried]
    rfl
  | false =>
    rw [htrusted, if_neg Bool.false_ne_true] at hplain hcarried
    have hfalse (P : Prop) : false = true ∨ P ↔ P := or_iff_right Bool.false_ne_true
    refine ⟨fun z => ?_, ?_, ?_, fun d hd => ⟨fun halias => ?_, fun hnowhere => ?_⟩, hclient⟩
    · rw [hcarried, hplain]
      exact iff_of_false Policy.judge_ne_trusted Policy.judge_ne_trusted
    · rw [hcarried, hplain, hfalse, Policy.judge_withoutReason_eq_iff]
    · rw [hcarried, hplain, hfalse, Policy.isDenied_judge, Policy.isDenied_judge]
    · rw [hcarried, hplain, hd, halias.lookup_toMapped]
    · rw [hcarried, hd, Database.lookup_toMapped_of_nowhere hnowhere]
      rfl

/-- A small database: a tree of some nodes, and one record behind it. -/
def small (nodes : Nat) (tree : List UInt8) : Database where
  path := ""
  data := ⟨(tree ++ List.replicate 16 0
    ++ [0xe1, 0x47, 0x63, 0x6f, 0x75, 0x6e, 0x74, 0x72, 0x79,
      0xe1, 0x48, 0x69, 0x73, 0x6f, 0x5f, 0x63, 0x6f, 0x64, 0x65, 0x42, 0x47, 0x42]).toArray⟩
  metadata := ⟨"", 0, 6, nodes, 24⟩
  ipv4Start := 0

/-- A database that has the country of `192.0.0.0/3`, and nothing behind the
lead. The first node is left by the first bit that is set, and the other two
look for two more. -/
def unlisted : Database :=
  small 3 [0, 0, 0, 0, 0, 1,  0, 0, 3, 0, 0, 2,  0, 0, 19, 0, 0, 3]

/-- A database that has the same country behind the lead. Its nodes count the
bits that are set, and two of them make none. -/
def listed : Database :=
  small 2 [0, 0, 0, 0, 0, 1,  0, 0, 18, 0, 0, 0]

/-- With an alias the second form is denied as the first is. -/
theorem evaluate_listed :
    listed.Aliased
      ∧ Filter.evaluate ⟨Policy.ofLists ["US"] [], listed.lookup⟩ (.v4 ⟨203, 0, 113, 1⟩)
        = .denied "GB" .allow
      ∧ Filter.evaluate ⟨Policy.ofLists ["US"] [], listed.lookup⟩
          (.v6 (IPv4.mk 203 0 113 1).toMapped)
        = .denied "GB" .allow := by
  have halias : listed.Aliased := by
    show listed.carriedStart? = some listed.ipv4Start
    decide +kernel
  have hplain : Filter.evaluate ⟨Policy.ofLists ["US"] [], listed.lookup⟩
      (.v4 ⟨203, 0, 113, 1⟩) = .denied "GB" .allow := by decide +kernel
  obtain ⟨-, -, -, hdatabase, -⟩ := evaluate_toMapped
    ⟨Policy.ofLists ["US"] [], listed.lookup⟩ ⟨203, 0, 113, 1⟩
  exact ⟨halias, hplain, ((hdatabase listed rfl).1 halias).trans hplain⟩

/-- **Past the filter**: only one country may pass, the address is in
another, and in its second form it is admitted. -/
theorem evaluate_unlisted :
    Filter.evaluate ⟨Policy.ofLists ["US"] [], unlisted.lookup⟩ (.v4 ⟨203, 0, 113, 1⟩)
        = .denied "GB" .allow
      ∧ Filter.evaluate ⟨Policy.ofLists ["US"] [], unlisted.lookup⟩
          (.v6 (IPv4.mk 203 0 113 1).toMapped)
        = .unknown
      ∧ unlisted.carriedStart? = some unlisted.metadata.nodeCount := by
  refine ⟨by decide +kernel, by decide +kernel, by decide +kernel⟩

end Filter

end Gatehouse.Country
