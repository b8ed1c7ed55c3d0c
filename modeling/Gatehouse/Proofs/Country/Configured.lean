import Gatehouse.Proofs.Config.Acceptance
import Gatehouse.Proofs.Country.Verdict
import Gatehouse.Startup

/-!
# The filter of an accepted configuration

The entries of the two country lists are read three times: the check looks at each
one, the notice that a list is left out asks whether both lists have entries, and the
policy is made of what is left of the entries without blanks. An entry that passes
the check is never empty without its blanks (`Config.isCountryCode_iff`), and so the
three agree: a list with entries is a list with codes, and nobody who writes down
countries ends up with a filter that lets everyone pass
(`Startup.countryFilter_asWritten`).
-/

namespace Gatehouse.Country

open Text Config

variable {entries : List String}

/-- **An entry of two letters** is a code, written in capitals. -/
theorem upper_trim_of_isCountryCode {e : String} (h : isCountryCode e = true) :
    ∃ a b : Char, (upper (trim e)).toList = [a, b] ∧ a.isUpper = true ∧ b.isUpper = true := by
  obtain ⟨a, b, hcode, ha, hb⟩ := isCountryCode_iff.mp h
  refine ⟨a.toUpper, b.toUpper, ?_, ?_, ?_⟩
  · simp [upper, trim, hcode]
  · rw [Char.isUpper_toUpper_eq_isAlpha, ha]
  · rw [Char.isUpper_toUpper_eq_isAlpha, hb]

theorem upper_trim_ne_empty {e : String} (h : isCountryCode e = true) :
    upper (trim e) ≠ "" := by
  obtain ⟨a, b, hcode, -⟩ := upper_trim_of_isCountryCode h
  intro hempty
  rw [hempty] at hcode
  cases hcode

/-- **No acceptable entry is dropped.** -/
theorem isCode_iff (h : ∀ e ∈ entries, isCountryCode e = true) {code : String} :
    IsCode entries code ↔ ∃ e ∈ entries, upper (trim e) = code := by
  constructor
  · exact And.right
  · rintro ⟨e, he, rfl⟩
    exact ⟨upper_trim_ne_empty (h e he), e, he, rfl⟩

/-- A list of acceptable entries has a code as soon as it has an entry. -/
theorem codeSet_eq_nil_iff (h : ∀ e ∈ entries, isCountryCode e = true) :
    codeSet entries = [] ↔ entries = [] := by
  rw [← not_iff_not, ← ne_eq, codeSet_ne_nil_iff, ← ne_eq]
  constructor
  · rintro ⟨code, -, e, he, -⟩
    exact List.ne_nil_of_mem he
  · intro hne
    obtain ⟨e, he⟩ := List.exists_mem_of_ne_nil _ hne
    exact ⟨_, (isCode_iff h).mpr ⟨e, he, rfl⟩⟩

/-- **A block list with an entry has an effect** where it is not left out: it turns
away the country of this entry. -/
theorem exists_rejects_iff (h : ∀ e ∈ entries, isCountryCode e = true) :
    (∃ country l, (Policy.ofLists [] entries).rejects country = some l) ↔ entries ≠ [] := by
  have hallow : ¬ ∃ code, IsCode [] code := by simp [IsCode]
  simp only [Policy.rejects_ofLists_eq_some_iff]
  constructor
  · rintro ⟨country, l, hturns⟩
    cases l with
    | allow => exact absurd hturns.1 hallow
    | block =>
      obtain ⟨-, -, -, e, he, -⟩ := hturns
      exact List.ne_nil_of_mem he
  · intro hne
    obtain ⟨e, he⟩ := List.exists_mem_of_ne_nil _ hne
    have hcode := upper_trim_ne_empty (h e he)
    refine ⟨trim e, .block, hallow, fun hempty => hcode ?_, hcode, e, he, rfl⟩
    rw [hempty]
    rfl

/-- The policy of acceptable lists, by the lists. -/
theorem ofLists_eq {allow block : List String} (hallow : ∀ e ∈ allow, isCountryCode e = true)
    (hblock : ∀ e ∈ block, isCountryCode e = true) :
    Policy.ofLists allow block
      = if allow = [] then
          if block = [] then .unrestricted else .blockOnly (codeSet block)
        else .allowOnly (codeSet allow) := by
  unfold Policy.ofLists
  simp only [ne_eq, codeSet_eq_nil_iff hallow, codeSet_eq_nil_iff hblock, ite_not]

/-- **Which policy acceptable lists make** depends on which of them has entries. -/
theorem ofLists_kind {allow block : List String} (hallow : ∀ e ∈ allow, isCountryCode e = true)
    (hblock : ∀ e ∈ block, isCountryCode e = true) :
    ((∃ codes, Policy.ofLists allow block = .allowOnly codes) ↔ allow ≠ [])
      ∧ ((∃ codes, Policy.ofLists allow block = .blockOnly codes) ↔ allow = [] ∧ block ≠ [])
      ∧ (Policy.ofLists allow block = .unrestricted ↔ allow = [] ∧ block = []) := by
  rw [ofLists_eq hallow hblock]
  by_cases ha : allow = [] <;> by_cases hb : block = [] <;> simp [ha, hb]

/-- The list that decides: the allow list, or the block list where there is no
other. -/
def decidingList (allow block : List String) : List String :=
  if allow = [] then block else allow

/-- **The codes of the policy** are the entries of the deciding list, all of them. -/
theorem mem_countries_iff {allow block : List String}
    (hallow : ∀ e ∈ allow, isCountryCode e = true)
    (hblock : ∀ e ∈ block, isCountryCode e = true) {code : String} :
    code ∈ (Policy.ofLists allow block).countries
      ↔ ∃ e ∈ decidingList allow block, upper (trim e) = code := by
  rw [ofLists_eq hallow hblock]
  unfold decidingList
  split
  · split
    · next hnone => simp [hnone, Policy.countries]
    · rw [← isCode_iff hblock]
      exact mem_codeSet
  · rw [← isCode_iff hallow]
    exact mem_codeSet

end Gatehouse.Country

namespace Gatehouse.Startup

open Text Country

/-- **The filter of an accepted configuration is the one that is written down**,
around every lookup.

Its policy lets only listed countries pass exactly if the allow list has an entry, it
turns listed countries away exactly if only the block list has one, and it lets every
country pass exactly if neither has. Its codes are those of the deciding list, every
entry without its blanks and in capitals, and each of them is two capital letters.
The operator is told that the block list is left out, with both lists as they are
written, exactly if the allow list decides and the block list by itself would turn
some country away. -/
theorem countryFilter_asWritten {c : Config} (hc : c.problems = []) (lookup : Lookup) :
    ∃ policy notes, countryFilter c.geoip (some lookup) = (some ⟨policy, lookup⟩, notes)
      ∧ ((∃ codes, policy = .allowOnly codes) ↔ c.geoip.allowCountries ≠ [])
      ∧ ((∃ codes, policy = .blockOnly codes)
        ↔ c.geoip.allowCountries = [] ∧ c.geoip.blockCountries ≠ [])
      ∧ (policy = .unrestricted
        ↔ c.geoip.allowCountries = [] ∧ c.geoip.blockCountries = [])
      ∧ (∀ code, code ∈ policy.countries
        ↔ ∃ e ∈ decidingList c.geoip.allowCountries c.geoip.blockCountries,
          upper (trim e) = code)
      ∧ (∀ code ∈ policy.countries,
        ∃ a b : Char, code.toList = [a, b] ∧ a.isUpper = true ∧ b.isUpper = true)
      ∧ (∀ allow block, Event.bothLists allow block ∈ notes
        ↔ (allow = c.geoip.allowCountries ∧ block = c.geoip.blockCountries)
          ∧ (∃ codes, policy = .allowOnly codes)
          ∧ ∃ country l,
            (Policy.ofLists [] c.geoip.blockCountries).rejects country = some l) := by
  obtain ⟨-, -, -, hallow, hblock, -, -⟩ := Config.problems_eq_nil_iff.mp hc
  refine ⟨_, _, rfl, ?_⟩
  generalize c.geoip = g at hallow hblock ⊢
  obtain ⟨hallowOnly, hblockOnly, hunrestricted⟩ := ofLists_kind hallow hblock
  refine ⟨hallowOnly, hblockOnly, hunrestricted, fun _ => mem_countries_iff hallow hblock,
    fun code hcode => ?_, fun allow block => ?_⟩
  · obtain ⟨e, he, rfl⟩ := (mem_countries_iff hallow hblock).mp hcode
    refine upper_trim_of_isCountryCode ?_
    unfold decidingList at he
    split at he
    · exact hblock e he
    · exact hallow e he
  · rw [hallowOnly, exists_rejects_iff hblock]
    by_cases ha : g.allowCountries = [] <;> by_cases hb : g.blockCountries = [] <;> simp [ha, hb]

/-- Two countries to let pass, written carelessly, and one that is turned away. -/
def carelessLists : Config :=
  { geoip := { enabled := true, allowCountries := ["us", " Ca\u00a0"], blockCountries := ["gb"] } }

/-- **They are read as they are meant**, and the operator hears that the block list is
left out. -/
theorem countryFilter_asWritten_careless :
    carelessLists.problems = []
      ∧ ∃ policy notes, countryFilter carelessLists.geoip (some fun _ => .ok none)
          = (some ⟨policy, fun _ => .ok none⟩, notes)
        ∧ "CA" ∈ policy.countries ∧ (∃ codes, policy = .allowOnly codes)
        ∧ Event.bothLists carelessLists.geoip.allowCountries
            carelessLists.geoip.blockCountries ∈ notes := by
  have hok : carelessLists.problems = [] := by decide +kernel
  obtain ⟨policy, notes, hfilter, hallow, -, -, hcodes, -, hnotes⟩ :=
    countryFilter_asWritten hok fun _ => .ok none
  have hdecides := hallow.mpr (by decide)
  have hcanada : ∃ e ∈ decidingList carelessLists.geoip.allowCountries
      carelessLists.geoip.blockCountries, upper (trim e) = "CA" :=
    ⟨" Ca\u00a0", by decide +kernel, by decide +kernel⟩
  exact ⟨hok, policy, notes, hfilter, (hcodes "CA").mpr hcanada, hdecides,
    (hnotes _ _).mpr ⟨⟨rfl, rfl⟩, hdecides, "gb", .block, by decide +kernel⟩⟩

end Gatehouse.Startup
