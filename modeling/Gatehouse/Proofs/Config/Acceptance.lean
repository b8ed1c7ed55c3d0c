import Mathlib
import Gatehouse.Config.Check

/-!
# What an accepted configuration is like

A configuration is accepted when `Config.problems` finds nothing. Whoever comes
after that check would like to know what holds then and not what was not found:
each rule by itself, be it about one setting, about every entry of a list or about
two settings together. That is `Config.Acceptable`.
-/

namespace Gatehouse.Config

open Text

/-- **Every rule holds.** -/
structure Acceptable (c : Config) : Prop where
  bind : isEndpoint c.listener.bindAddress = true
  target : targetError? c.backend.targetUrl = none
  timeout : 0 < c.timeouts.requestSecs
  allow : ∀ e ∈ c.geoip.allowCountries, isCountryCode e = true
  block : ∀ e ∈ c.geoip.blockCountries, isCountryCode e = true
  cache : c.cache.enabled = true → c.cache.maxItemSize ≤ c.cache.capacity
  metrics : c.observability.metricsEnabled = true →
    isEndpoint c.observability.metricsAddress = true

theorem problemIf_eq_nil_iff {b : Bool} {p : Problem} : problemIf b p = [] ↔ b = false := by
  cases b <;> simp [problemIf]

theorem codeProblems_eq_nil_iff {list : CountryList} {codes : List String} :
    codeProblems list codes = [] ↔ ∀ e ∈ codes, isCountryCode e = true := by
  simp only [codeProblems, List.flatMap_eq_nil_iff, problemIf_eq_nil_iff, Bool.not_eq_false']

/-- **A configuration without problems** is one that keeps every rule. -/
theorem problems_eq_nil_iff {c : Config} : c.problems = [] ↔ Acceptable c := by
  unfold problems
  cases htarget : targetError? c.backend.targetUrl with
  | some e =>
    -- this is a problem, whatever the other rules say
    simp only [List.append_eq_nil_iff, List.cons_ne_nil, and_false, false_and, false_iff]
    intro hc
    cases htarget.symm.trans hc.target
  | none =>
    simp only [List.append_eq_nil_iff, problemIf_eq_nil_iff, codeProblems_eq_nil_iff,
      Bool.not_eq_false', beq_eq_false_iff_ne, Bool.and_eq_false_imp, decide_eq_false_iff_not,
      Nat.not_lt, and_true]
    constructor
    · rintro ⟨⟨⟨⟨⟨bind, timeout⟩, allow⟩, block⟩, cache⟩, metrics⟩
      exact ⟨bind, htarget, Nat.pos_of_ne_zero timeout, allow, block, cache, metrics⟩
    · rintro ⟨bind, -, timeout, allow, block, cache, metrics⟩
      exact ⟨⟨⟨⟨⟨bind, Nat.pos_iff_ne_zero.mp timeout⟩, allow⟩, block⟩, cache⟩, metrics⟩

/-- **An acceptable target** is a URL of plain HTTP with a host. -/
theorem targetError?_eq_none_iff {text : String} : targetError? text = none
    ↔ ∃ url host, Url.parse text = .ok url ∧ url.scheme = "http" ∧ url.host = some host := by
  unfold targetError?
  cases Url.parse text with
  | error e => simp
  | ok url =>
    by_cases hscheme : url.scheme = "http"
    · cases hhost : url.host <;> simp [hscheme, hhost]
    · simp [hscheme]

/-- **An acceptable entry** of a country list has two letters and blanks around
them. -/
theorem isCountryCode_iff {s : String} : isCountryCode s = true
    ↔ ∃ a b : Char, trimChars s.toList = [a, b] ∧ a.isAlpha = true ∧ b.isAlpha = true := by
  unfold isCountryCode
  simp only [Bool.and_eq_true, beq_iff_eq, List.length_eq_two]
  constructor
  · rintro ⟨⟨a, b, hcode⟩, hall⟩
    rw [hcode] at hall
    simp only [List.all_cons, List.all_nil, Bool.and_true, Bool.and_eq_true] at hall
    exact ⟨a, b, hcode, hall⟩
  · rintro ⟨a, b, hcode, ha, hb⟩
    rw [hcode]
    exact ⟨⟨a, b, rfl⟩, by simp [ha, hb]⟩

end Gatehouse.Config
