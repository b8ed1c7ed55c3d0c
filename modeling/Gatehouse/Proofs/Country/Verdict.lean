import Gatehouse.Country.Filter
import Gatehouse.Proofs.Country.Codes

/-!
# The verdict of two configured lists

An operator writes two lists of countries and expects a decision about
addresses. Between the two stand a normalised policy and a lookup, and this
module takes both away: `evaluateM_ofLists` reads every verdict off the
lists as they are configured, the zone of the address and the answer of the
lookup.

The lookup is taken in its general form, an answer with effects, and
`noting` makes it write down the addresses it is asked about. That is how
the same statement says that it is asked once about a public address and
never about a trusted one.
-/

namespace Gatehouse.Country

open Text

/-- **Whether a list turns a country away**, told by the configured lists.
An allow list with a code turns away whatever it does not have; only where
there is none does a block list turn away what it has, and never the empty
country. -/
def TurnsAway (allow block : List String) (country : String) : PolicyList → Prop
  | .allow => (∃ code, IsCode allow code) ∧ ¬ IsCode allow (upper country)
  | .block => (¬ ∃ code, IsCode allow code) ∧ country ≠ ""
      ∧ IsCode block (upper country)

/-- A lookup that notes the addresses it is asked about. -/
def noting {σ : Type} (lookup : Address → StateM σ Answer) :
    Address → StateM (List Address × σ) Answer :=
  fun a s =>
    let (answer, t) := lookup a s.2
    (answer, (s.1 ++ [a], t))

/-! ## The policy -/

/-- The empty country stays empty in capitals. -/
theorem upper_eq_empty_iff {s : String} : upper s = "" ↔ s = "" := by
  unfold upper
  rw [← String.toList_inj, String.toList_ofList, String.toList_empty,
    List.map_eq_nil_iff, ← String.toList_inj, String.toList_empty]

namespace Verdict

/-- **What is passed on** is the code of a country that was allowed, unless
that is empty. -/
theorem annotation_eq_some_iff {v : Verdict} {code : String} :
    v.annotation = some code ↔ v = .allowed code ∧ code ≠ "" := by
  unfold annotation
  split
  · next c =>
    rw [allowed.injEq]
    split
    · next hc =>
      subst hc
      constructor
      · intro h; cases h
      · intro h; exact absurd h.1.symm h.2
    · next hc =>
      rw [Option.some.injEq]
      exact ⟨fun h => ⟨h, h ▸ hc⟩, And.left⟩
  · next hne =>
    constructor
    · intro h; cases h
    · intro h; exact absurd h.1 (hne code)

end Verdict

namespace Policy

/-- A set of codes has a country when the country, in capitals, is a code of
the list that the set comes from. -/
theorem lists_codeSet {entries : List String} {country : String} :
    lists (codeSet entries) country = true
      ↔ country ≠ "" ∧ IsCode entries (upper country) := by
  unfold lists
  rw [Bool.and_eq_true, decide_eq_true_eq, List.contains_iff_mem, mem_codeSet]

/-- **Which list turns a country away** is decided by the configured lists
as `TurnsAway` tells it. -/
theorem rejects_ofLists_eq_some_iff {allow block : List String}
    {country : String} {l : PolicyList} :
    (ofLists allow block).rejects country = some l
      ↔ TurnsAway allow block country l := by
  unfold ofLists
  split
  · next ha =>
    rw [codeSet_ne_nil_iff] at ha
    -- the empty country is no code, so that it need not be told apart here
    have hempty : lists (codeSet allow) country = true
        ↔ IsCode allow (upper country) := by
      rw [lists_codeSet]
      exact and_iff_right_of_imp fun h he => h.1 (upper_eq_empty_iff.mpr he)
    cases l <;> simp [rejects, TurnsAway, hempty, ha]
  · next ha =>
    rw [codeSet_ne_nil_iff] at ha
    split
    · cases l <;> simp [rejects, TurnsAway, lists_codeSet, ha]
    · next hb =>
      rw [codeSet_ne_nil_iff] at hb
      have hno : ¬ IsCode block (upper country) := fun h => hb ⟨_, h⟩
      cases l <;> simp [rejects, TurnsAway, ha, hno]

/-- A country passes when neither list turns it away. -/
theorem rejects_ofLists_eq_none_iff {allow block : List String}
    {country : String} :
    (ofLists allow block).rejects country = none
      ↔ ∀ l, ¬ TurnsAway allow block country l := by
  rw [Option.eq_none_iff_forall_ne_some]
  exact forall_congr' fun _ => not_congr rejects_ofLists_eq_some_iff

/-! ## The answer -/

theorem judge_eq_denied_iff {p : Policy} {answer : Answer} {country : String}
    {l : PolicyList} :
    p.judge answer = .denied country l
      ↔ answer = .ok (some country) ∧ p.rejects country = some l := by
  constructor
  · intro h
    unfold judge at h
    split at h
    · cases h
    · cases h
    · split at h
      · next c _ hr => cases h; exact ⟨rfl, hr⟩
      · cases h
  · rintro ⟨rfl, hr⟩
    unfold judge
    dsimp only
    rw [hr]

theorem judge_eq_allowed_iff {p : Policy} {answer : Answer} {country : String} :
    p.judge answer = .allowed country
      ↔ answer = .ok (some country) ∧ p.rejects country = none := by
  constructor
  · intro h
    unfold judge at h
    split at h
    · cases h
    · cases h
    · split at h
      · cases h
      · next c hr => cases h; exact ⟨rfl, hr⟩
  · rintro ⟨rfl, hr⟩
    unfold judge
    dsimp only
    rw [hr]

theorem judge_eq_lookupFailed_iff {p : Policy} {answer : Answer}
    {e : LookupError} :
    p.judge answer = .lookupFailed e ↔ answer = .error e := by
  unfold judge
  split
  · simp
  · simp
  · split <;> simp

theorem judge_eq_unknown_iff {p : Policy} {answer : Answer} :
    p.judge answer = .unknown ↔ answer = .ok none := by
  unfold judge
  split
  · simp
  · simp
  · split <;> simp

theorem judge_ne_trusted {p : Policy} {answer : Answer} {z : Zone} :
    p.judge answer ≠ .trusted z := by
  unfold judge
  split
  · simp
  · simp
  · split <;> simp

/-! ## The decision -/

/-- **A noting lookup at work**: nothing is asked about a trusted address,
and one question, about the address itself, about any other. -/
theorem evaluateM_noting {σ : Type} (p : Policy)
    (lookup : Address → StateM σ Answer) (a : Address)
    (asked : List Address) (s : σ) :
    p.evaluateM (noting lookup) a (asked, s)
      = if a.zone.isTrusted then (.trusted a.zone, (asked, s))
        else (p.judge (lookup a s).1, (asked ++ [a], (lookup a s).2)) := by
  unfold evaluateM
  split <;> rfl

/-- **The decision of two configured lists**, for every lookup with effects,
every address and every state the lookup may be in.

A country is denied by a list exactly when the zone is not trusted, the
lookup answers with that country, and the list turns it away. Every other
outcome follows the zone and the answer. The lookup is asked about the
address and nothing else, once, unless the zone is trusted, when it is not
asked at all. The annotation is the code of a country that was allowed,
unless that is empty. A filter, whose lookup has no effects, comes to the
same verdict wherever its lookup gives the same answers. -/
theorem evaluateM_ofLists {σ : Type} (allow block : List String)
    (lookup : Address → StateM σ Answer) (a : Address)
    (asked : List Address) (s : σ) :
    let outcome := (ofLists allow block).evaluateM (noting lookup) a (asked, s)
    let answer := (lookup a s).1
    (∀ country l, outcome.1 = .denied country l
        ↔ a.zone.isTrusted = false ∧ answer = .ok (some country)
          ∧ TurnsAway allow block country l)
      ∧ (∀ z, outcome.1 = .trusted z ↔ a.zone.isTrusted = true ∧ z = a.zone)
      ∧ (∀ e, outcome.1 = .lookupFailed e
        ↔ a.zone.isTrusted = false ∧ answer = .error e)
      ∧ (outcome.1 = .unknown ↔ a.zone.isTrusted = false ∧ answer = .ok none)
      ∧ (∀ country, outcome.1 = .allowed country
        ↔ a.zone.isTrusted = false ∧ answer = .ok (some country)
          ∧ ∀ l, ¬ TurnsAway allow block country l)
      ∧ outcome.2.1 = asked ++ (if a.zone.isTrusted then [] else [a])
      ∧ outcome.2.2 = (if a.zone.isTrusted then s else (lookup a s).2)
      ∧ (∀ code, Verdict.annotation outcome.1 = some code
        ↔ outcome.1 = .allowed code ∧ code ≠ "")
      ∧ Filter.evaluate ⟨ofLists allow block, fun x => (lookup x s).1⟩ a
        = outcome.1 := by
  intro outcome answer
  have hrun : outcome = _ :=
    evaluateM_noting (ofLists allow block) lookup a asked s
  have hpure : Filter.evaluate ⟨ofLists allow block, fun x => (lookup x s).1⟩ a
      = outcome.1 := by
    unfold Filter.evaluate
    rw [evaluate_eq, hrun]
    split <;> rfl
  have hannotation (code : String) : Verdict.annotation outcome.1 = some code
      ↔ outcome.1 = .allowed code ∧ code ≠ "" := Verdict.annotation_eq_some_iff
  rw [hpure]
  cases ht : a.zone.isTrusted with
  | true =>
    -- nothing was asked, and no other verdict is a trusting one
    rw [ht, if_pos rfl] at hrun
    rw [hrun] at hannotation ⊢
    refine ⟨fun _ _ => ?_, fun z => ?_, fun _ => ?_, ?_, fun _ => ?_, ?_, rfl,
      hannotation, rfl⟩
    · simp
    · rw [Verdict.trusted.injEq, eq_comm]
      exact (and_iff_right rfl).symm
    · simp
    · simp
    · simp
    · exact (List.append_nil asked).symm
  | false =>
    rw [ht, if_neg Bool.false_ne_true] at hrun
    rw [hrun] at hannotation ⊢
    refine ⟨fun country l => ?_, fun z => ?_, fun e => ?_, ?_, fun country => ?_,
      rfl, rfl, hannotation, rfl⟩
    · rw [judge_eq_denied_iff, rejects_ofLists_eq_some_iff]
      exact (and_iff_right rfl).symm
    · simp [judge_ne_trusted]
    · rw [judge_eq_lookupFailed_iff]
      exact (and_iff_right rfl).symm
    · rw [judge_eq_unknown_iff]
      exact (and_iff_right rfl).symm
    · rw [judge_eq_allowed_iff, rejects_ofLists_eq_none_iff]
      exact (and_iff_right rfl).symm

end Policy

end Gatehouse.Country
