import Gatehouse.Proofs.Chain.Asking
import Gatehouse.Proofs.Chain.Guard
import Gatehouse.Proofs.Country.Verdict

/-!
# Who tells the backend the country

The header for the country is set by the filter, and a backend may want to
rely on it. How far it can is said here. For a client whose country was
resolved and allowed the backend finds one value, the code, whatever the
client had written there (`Told`). For any other client that passes, the
filter leaves the request as it came, and a value that the client has
written arrives. An address that nobody looks up has no country, and the
filter does not take a header for one away.
-/

namespace Gatehouse.Chain

open Http Cache Country Exchange

variable {β : Type} {f : Filter} {r : Request} {code : String}

/-- **A request whose country is told**: the verdict on its client allows a
country, and the code can be written into a header. -/
def Told (f : Filter) (r : Request) (code : String) : Prop :=
  ∃ address, clientAddress r.headers r.peer = some address
    ∧ f.evaluate address = .allowed code ∧ code ≠ ""
    ∧ (Bytes.ofString code).all isValueByte = true

theorem admitted_of_told (h : Told f r code) :
    admitted f r = { r with
      headers := r.headers.insert countryHeader (Bytes.ofString code)
      country := some code } := by
  obtain ⟨address, hc, hverdict, hne, hvalue⟩ := h
  have hnote : Verdict.annotation (.allowed code) = some code := if_neg hne
  rw [admitted_of_some hc, hverdict]
  simp only [hnote]
  exact if_pos hvalue

/-- The filter leaves every other request as it came. -/
theorem admitted_of_untold (h : ∀ code, ¬ Told f r code) : admitted f r = r := by
  cases hc : clientAddress r.headers r.peer with
  | none => exact admitted_of_none hc
  | some address =>
    rw [admitted_of_some hc]
    cases hnote : Verdict.annotation (f.evaluate address) with
    | none => rfl
    | some code =>
      obtain ⟨hverdict, hne⟩ := Verdict.annotation_eq_some_iff.mp hnote
      exact if_neg fun hvalue => h code ⟨address, hc, hverdict, hne, hvalue⟩

/-- **What a backend is told about the country.** Whatever headers a client
sends, and whatever was asked before: the backend meets the request once at
most, and never that of a client that is turned away. If the country of the
client is told, the header for it has the code as its only value. If it is
not – there is no readable address, or it is trusted, unknown or not to be
looked up, or the code is empty or no header value – the backend finds the
values that the client has sent, and none if it has sent none. Everybody
who is not turned away is met, as long as there is time and no cache to
answer and the request announces no more than it may. -/
theorem serve_countryHeader (p : Plan) (f : Filter) (files : Files.Disk)
    (choose : Chooser) (b : Backend β) (r : Request) (s : Scene β) :
    let seen := meetings
      ({ p with filter := some f }.serve (world files choose) (ask (noting b))) r s
    seen.length ≤ 1
      ∧ (∀ q ∈ seen, ¬ Denied f r
        ∧ (∀ code, Told f r code →
          q.headers.values countryHeader = [Bytes.ofString code])
        ∧ ((∀ code, ¬ Told f r code) →
          q.headers.values countryHeader = r.headers.values countryHeader))
      ∧ (0 < p.requestSecs → p.cacheEnabled = false → ¬ Denied f r →
        (0 < p.maxRequestBody →
          ∀ n, declaredLength? r = some n → n ≤ p.maxRequestBody) →
        seen.length = 1) := by
  intro seen
  have hpasses := passes_serve files choose { p with filter := some f } (ask (noting b))
  have hseen := hpasses.meetings_eq (notes_ask b) r s
  refine ⟨?_, fun q hq => ?_, fun hsecs hcache hpass hlimit => ?_⟩
  · rcases hseen with hseen | ⟨-, hseen⟩
    · rw [show seen = _ from hseen]
      exact Option.length_toList_le
    · rw [show seen = _ from hseen]
      exact Nat.zero_le _
  · have honward : { p with filter := some f }.onward s.millis r = some q := by
      rcases hseen with hseen | ⟨-, hseen⟩
      · rw [show seen = _ from hseen] at hq
        exact Option.mem_toList.mp hq
      · rw [show seen = _ from hseen] at hq
        cases hq
    obtain ⟨hpass, hinward⟩ := Plan.inward_of_onward rfl honward
    have hvalues : q.headers.values countryHeader
        = (admitted f r).headers.values countryHeader :=
      Plan.values_of_inward hinward (by decide) (by decide)
    refine ⟨hpass, fun code htold => ?_, fun huntold => ?_⟩
    · rw [hvalues, admitted_of_told htold, Headers.values_insert, if_pos rfl]
    · rw [hvalues, admitted_of_untold huntold]
  · rcases hseen with hseen | ⟨hspare, -⟩
    · have hmet : { p with filter := some f }.onward s.millis r ≠ none :=
        Plan.onward_ne_none (fun _ hfilter => Option.some.inj hfilter ▸ hpass) hlimit
      obtain ⟨q, honward⟩ := Option.ne_none_iff_exists'.mp hmet
      rw [show seen = _ from hseen, honward]
      rfl
    · rcases hspare with hzero | hcached
      · exact absurd hzero (Nat.ne_of_gt hsecs)
      · exact absurd (hcache.symm.trans hcached) Bool.false_ne_true

/-- A client at an address, that claims to be in the United States. -/
def claiming (ip : IPv4) : Request :=
  { visit .get with
    headers := ⟨[⟨countryHeader, Bytes.ofString "US"⟩]⟩
    peer := some ⟨.v4 ip, 4000⟩ }

/-- A filter without lists, that finds everybody in Germany. -/
def inGermany : Filter := ⟨Policy.ofLists [] [], fun _ => .ok (some "DE")⟩

/-- A plan without a cache. -/
def uncached : Plan := { everyLayer with cacheEnabled := false }

/-- What a client claims is replaced where its country is told. -/
theorem serve_countryHeader_claiming :
    Told inGermany (claiming ⟨203, 0, 113, 1⟩) "DE"
      ∧ ¬ Denied inGermany (claiming ⟨203, 0, 113, 1⟩)
      ∧ ∃ q, meetings ({ uncached with filter := some inGermany }.serve
          (world .empty fun _ => 0) (ask (noting counting)))
          (claiming ⟨203, 0, 113, 1⟩) opening = [q]
        ∧ q.headers.values countryHeader = [Bytes.ofString "DE"] := by
  have htold : Told inGermany (claiming ⟨203, 0, 113, 1⟩) "DE" :=
    ⟨.v4 ⟨203, 0, 113, 1⟩, by decide +kernel, by decide +kernel, by decide,
      by decide +kernel⟩
  have hpass : ¬ Denied inGermany (claiming ⟨203, 0, 113, 1⟩) := by decide +kernel
  obtain ⟨-, hmet, hreached⟩ := serve_countryHeader uncached inGermany .empty
    (fun _ => 0) counting (claiming ⟨203, 0, 113, 1⟩) opening
  have hlength := hreached (by decide) rfl hpass
    (fun _ n hn => absurd hn (by decide +kernel +revert))
  obtain ⟨q, hq⟩ := List.length_eq_one_iff.mp hlength
  refine ⟨htold, hpass, q, hq, ?_⟩
  exact (hmet q (by rw [hq]; exact List.mem_singleton_self q)).2.1 "DE" htold

/-- **A country that nobody has resolved.** A client with a trusted address,
and one whose address cannot be read, reach the backend with the country
that they claim to be in. -/
theorem countryHeader_claimed :
    inGermany.evaluate (.v4 ⟨10, 0, 0, 5⟩) = .trusted .privateUse
      ∧ (∃ q, meetings ({ everyLayer with filter := some inGermany }.serve
          (world .empty fun _ => 0) (ask (noting counting)))
          (claiming ⟨10, 0, 0, 5⟩) opening = [q]
        ∧ q.headers.values countryHeader = [Bytes.ofString "US"])
      ∧ ∃ q, meetings ({ everyLayer with filter := some inGermany }.serve
          (world .empty fun _ => 0) (ask (noting counting)))
          { claiming ⟨10, 0, 0, 5⟩ with peer := none } opening = [q]
        ∧ q.headers.values countryHeader = [Bytes.ofString "US"] := by
  refine ⟨by decide +kernel, ⟨_, rfl, by decide +kernel⟩, _, rfl, by decide +kernel⟩

end Gatehouse.Chain
