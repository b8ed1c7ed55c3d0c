import Gatehouse.Proofs.Chain.Layers

/-!
# The request that is handed on

A chain asks its innermost handler about a request at most once, and what
it asks about is not the request that came in: the filter has told the
country, the body has been cut to the limit, a start has been stamped, the
serving of files has been offered. This module says what it is.
`Plan.onward` computes the request from the plan, the time of day and the
request that came in, and gives none where the innermost handler is not to
be asked. What arrives has the method and the URI of what came in, its body
as far as the plan lets it be read (`Plan.rest_of_onward`), and all its headers
but the three that a chain sets (`Plan.values_of_onward`).
-/

namespace Gatehouse.Chain

open Http Country

/-! ## The request -/

/-- The body of a request as far as a plan lets it be read. Without a limit
it is the whole body. -/
def Plan.readable (p : Plan) (r : Request) : Body :=
  if p.maxRequestBody > 0 then r.body.limited (allowance p.maxRequestBody r) else r.body

/-- The request that the layers behind the filter hand on, if they do. -/
def Plan.inward (p : Plan) (millis : Nat) (r : Request) : Option Request :=
  (if p.maxRequestBody > 0 then curtail p.maxRequestBody r else some r).map fun r =>
    if p.xSendfile then offering (stamped millis r) else stamped millis r

/-- **The request that a plan hands on** to the innermost handler at a time
of day, if it hands one on. -/
def Plan.onward (p : Plan) (millis : Nat) (r : Request) : Option Request :=
  match p.filter with
  | some f => (screen f r).bind (p.inward millis)
  | none => p.inward millis r

/-! ## What arrives

Of the headers that came in, all arrive but the ones that the chain sets. -/

section Arrival

variable {p : Plan} {f : Filter} {millis : Nat} {r q : Request} {name : String}

/-- A request that is stamped has a stamp, its own or an earlier one. -/
theorem contains_stamped (millis : Nat) (r : Request) :
    (stamped millis r).headers.contains startHeader = true := by
  unfold stamped
  split
  · assumption
  · rw [Headers.contains_eq_true_iff, Headers.values_insert, if_pos rfl]
    exact List.cons_ne_nil _ _

/-- A body limit leaves everything but the body alone, and cuts that where
the limit is or the announced length. -/
theorem eq_of_curtail {limit : Nat} (h : curtail limit r = some q) :
    q = { r with body := r.body.limited (allowance limit r) } := by
  unfold curtail at h
  unfold allowance
  split at h
  · split at h
    · cases h
    · exact (Option.some.inj h).symm
  · exact (Option.some.inj h).symm

/-- **What the layers behind the filter hand on**: the body as far as the
plan lets it be read, a stamp, and the offer to serve files where they are
served. -/
theorem Plan.eq_of_inward (h : p.inward millis r = some q) :
    q = if p.xSendfile then offering (stamped millis { r with body := p.readable r })
      else stamped millis { r with body := p.readable r } := by
  obtain ⟨r', hlimit, hq⟩ := Option.map_eq_some_iff.mp h
  have hcut : r' = { r with body := p.readable r } := by
    unfold readable
    split at hlimit
    · next hpos =>
      rw [if_pos hpos]
      exact eq_of_curtail hlimit
    · next hzero =>
      rw [if_neg hzero]
      exact (Option.some.inj hlimit).symm
  rw [← hcut]
  exact hq.symm

/-- The layers behind the filter set two headers and leave the others. -/
theorem Plan.values_of_inward (h : p.inward millis r = some q)
    (hstart : name ≠ startHeader) (htype : name ≠ sendfileType) :
    q.headers.values name = r.headers.values name := by
  rw [Plan.eq_of_inward h]
  split
  · rw [values_offering, if_neg (Ne.symm htype), values_stamped hstart]
  · exact values_stamped hstart

/-- What arrives has a stamp. -/
theorem Plan.contains_startHeader_of_inward (h : p.inward millis r = some q) :
    q.headers.contains startHeader = true := by
  rw [Plan.eq_of_inward h]
  split
  · rw [Headers.contains_eq_true_iff, values_offering, if_neg (by decide)]
    exact Headers.contains_eq_true_iff.mp (contains_stamped millis _)
  · exact contains_stamped millis _

/-- What arrives has the offer to serve files, where files are served. -/
theorem Plan.values_sendfileType_of_inward (h : p.inward millis r = some q)
    (hsendfile : p.xSendfile = true) :
    q.headers.values sendfileType = [Bytes.ofString "X-Sendfile"] := by
  rw [Plan.eq_of_inward h, if_pos hsendfile, values_offering, if_pos rfl]

/-- Behind the filter nobody touches the method and the URI. -/
theorem Plan.rest_of_inward (h : p.inward millis r = some q) :
    q.method = r.method ∧ q.uri = r.uri ∧ q.body = p.readable r := by
  have hstamped (r : Request) : ∃ headers, stamped millis r = { r with headers := headers } := by
    unfold stamped
    split <;> exact ⟨_, rfl⟩
  obtain ⟨headers, hheaders⟩ := hstamped { r with body := p.readable r }
  rw [Plan.eq_of_inward h, hheaders]
  split <;> exact ⟨rfl, rfl, rfl⟩

/-- What a filter lets pass is what goes on. -/
theorem Plan.inward_of_onward (hfilter : p.filter = some f)
    (h : p.onward millis r = some q) :
    ¬ Denied f r ∧ p.inward millis (admitted f r) = some q := by
  unfold Plan.onward at h
  rw [hfilter] at h
  obtain ⟨r', hscreen, hinward⟩ := Option.bind_eq_some_iff.mp h
  by_cases hden : Denied f r
  · rw [screen_of_denied hden] at hscreen
    cases hscreen
  · rw [screen_of_not_denied hden] at hscreen
    cases hscreen
    exact ⟨hden, hinward⟩

/-- A filter touches one header. -/
theorem values_admitted (f : Filter) (r : Request) (hname : name ≠ countryHeader) :
    (admitted f r).headers.values name = r.headers.values name := by
  have hcode (code : String) :
      (withCountry r code).headers.values name = r.headers.values name := by
    unfold withCountry
    split
    · rw [Headers.values_insert, if_neg (Ne.symm hname)]
    · rfl
  unfold admitted
  split
  · rfl
  · split
    · rfl
    · exact hcode _

/-- A request that announces no more than the limit is handed on. -/
theorem curtail_ne_none {limit : Nat} (h : ∀ n, declaredLength? r = some n → n ≤ limit) :
    curtail limit r ≠ none := by
  unfold curtail
  cases hn : declaredLength? r with
  | none => exact Option.some_ne_none _
  | some n =>
    have hfits : ¬ n > limit := Nat.not_lt.mpr (h n hn)
    simp only [if_neg hfits]
    exact Option.some_ne_none _

/-- A filter does not touch what a request announces. -/
theorem declaredLength?_admitted (f : Filter) (r : Request) :
    declaredLength? (admitted f r) = declaredLength? r := by
  unfold declaredLength? Headers.text? Headers.get?
  rw [values_admitted f r (by decide)]

/-- What can be read of a body is the same behind a filter. -/
theorem Plan.readable_admitted (p : Plan) (f : Filter) (r : Request) :
    p.readable (admitted f r) = p.readable r := by
  obtain ⟨headers, country, h⟩ := exists_admitted_eq f r
  have hbody : (admitted f r).body = r.body := by rw [h]
  unfold readable allowance
  rw [hbody, declaredLength?_admitted]

/-- What announces no more than the limit gets through to the innermost
handler. -/
theorem Plan.inward_ne_none (hlimit : 0 < p.maxRequestBody →
    ∀ n, declaredLength? r = some n → n ≤ p.maxRequestBody) :
    p.inward millis r ≠ none := by
  unfold Plan.inward
  rw [Option.map_eq_none_iff.ne]
  split
  · next hpos => exact curtail_ne_none (hlimit hpos)
  · exact Option.some_ne_none r

/-- **Whom nothing stands in the way of, is handed on**: no filter turns the
request away, and it announces no more than the limit. -/
theorem Plan.onward_ne_none (hpass : ∀ f, p.filter = some f → ¬ Denied f r)
    (hlimit : 0 < p.maxRequestBody →
      ∀ n, declaredLength? r = some n → n ≤ p.maxRequestBody) :
    p.onward millis r ≠ none := by
  unfold Plan.onward
  cases hfilter : p.filter with
  | none => exact Plan.inward_ne_none hlimit
  | some f =>
    simp only [screen_of_not_denied (hpass f hfilter), Option.bind_some]
    exact Plan.inward_ne_none (declaredLength?_admitted f r ▸ hlimit)

/-- **What is handed on has come in** through a filter or without one, and
has passed the layers behind it. -/
theorem Plan.inward_cases (h : p.onward millis r = some q) :
    p.inward millis r = some q ∨ ∃ f, p.inward millis (admitted f r) = some q := by
  cases hfilter : p.filter with
  | some f => exact Or.inr ⟨f, (Plan.inward_of_onward hfilter h).2⟩
  | none =>
    unfold Plan.onward at h
    rw [hfilter] at h
    exact Or.inl h

/-- With a filter or without one, what goes on is what came in, but for the
country. -/
theorem Plan.exists_inward_of_onward (h : p.onward millis r = some q) :
    ∃ r', p.inward millis r' = some q ∧ r'.uri = r.uri
      ∧ ∀ name ≠ countryHeader, r'.headers.values name = r.headers.values name := by
  rcases Plan.inward_cases h with hinward | ⟨f, hinward⟩
  · exact ⟨r, hinward, rfl, fun _ _ => rfl⟩
  · obtain ⟨headers, country, hadmitted⟩ := exists_admitted_eq f r
    refine ⟨admitted f r, hinward, ?_, fun _ hname => values_admitted f r hname⟩
    rw [hadmitted]

/-- **What is handed on** has the method and the URI of what came in, and its
body as far as the plan lets it be read. -/
theorem Plan.rest_of_onward (h : p.onward millis r = some q) :
    q.method = r.method ∧ q.uri = r.uri ∧ q.body = p.readable r := by
  rcases Plan.inward_cases h with hinward | ⟨f, hinward⟩
  · exact Plan.rest_of_inward hinward
  · obtain ⟨hmethod, huri, hbody⟩ := Plan.rest_of_inward hinward
    obtain ⟨headers, country, hadmitted⟩ := exists_admitted_eq f r
    rw [p.readable_admitted] at hbody
    rw [hadmitted] at hmethod huri
    exact ⟨hmethod, huri, hbody⟩

/-- The headers that a chain does not set are handed on as they came in. -/
theorem Plan.values_of_onward (h : p.onward millis r = some q)
    (hcountry : name ≠ countryHeader) (hstart : name ≠ startHeader)
    (htype : name ≠ sendfileType) :
    q.headers.values name = r.headers.values name := by
  obtain ⟨r', hinward, -, hothers⟩ := Plan.exists_inward_of_onward h
  rw [Plan.values_of_inward hinward hstart htype, hothers _ hcountry]

end Arrival

end Gatehouse.Chain
