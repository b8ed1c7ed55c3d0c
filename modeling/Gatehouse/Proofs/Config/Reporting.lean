import Gatehouse.Launch
import Gatehouse.Proofs.Config.Acceptance

/-!
# What the check of a configuration reports

An operator who has made three mistakes should hear of three mistakes. The check
therefore never stops at the first one: it goes through its rules in a fixed order,
and every rule looks at its own settings only. What a report is supposed to be is said
here without the check, in three parts: which problems there are (`Broken`, one case
for each rule), how often each is told, and in which order (`Reports`). That leaves
nothing open. There is one such report for each configuration, and it is the one that
the check makes (`reports_iff`).

A configuration is checked in three places: where it comes as a text, where it comes in
a file, and at the beginning of a run, where options may have changed it in between. The
first two are a reading with the check behind it (`Checks`), and a run without such
options goes on or ends as they do (`Launch.Begins`).
-/

namespace Gatehouse.Config

open Text

variable {c : Config} {ps : List Problem}

/-! ## Lists in the order of a key -/

section

variable {α β : Type} {key : α → β} {rank : β → Nat} {l l' : List α}

/-- The head of a list in order comes before all members. -/
theorem rank_head_le {x y : α} (hl : (x :: l).Pairwise fun x y => rank (key x) ≤ rank (key y))
    (hy : y ∈ x :: l) : rank (key x) ≤ rank (key y) := by
  rcases List.mem_cons.mp hy with rfl | hy
  · exact le_rfl
  · exact List.rel_of_pairwise_cons hl hy

variable [DecidableEq β]

theorem mem_iff_of_filter_eq (h : ∀ k, l.filter (key · = k) = l'.filter (key · = k)) {x : α} :
    x ∈ l ↔ x ∈ l' := by
  have hkey : x ∈ l.filter (key · = key x) ↔ x ∈ l'.filter (key · = key x) := by rw [h]
  simpa using hkey

/-- **A list in the order of a key** is known by what it has under each key. -/
theorem eq_of_filter_eq (hrank : Function.Injective rank)
    (hl : l.Pairwise fun x y => rank (key x) ≤ rank (key y))
    (hl' : l'.Pairwise fun x y => rank (key x) ≤ rank (key y))
    (h : ∀ k, l.filter (key · = k) = l'.filter (key · = k)) : l = l' := by
  induction l generalizing l' with
  | nil =>
    refine (List.eq_nil_iff_forall_not_mem.mpr fun x hx => ?_).symm
    exact absurd ((mem_iff_of_filter_eq h).mpr hx) List.not_mem_nil
  | cons x l ih =>
    cases l' with
    | nil => exact absurd ((mem_iff_of_filter_eq h).mp List.mem_cons_self) List.not_mem_nil
    | cons y l' =>
      have hxy := rank_head_le hl ((mem_iff_of_filter_eq h).mpr List.mem_cons_self)
      have hyx := rank_head_le hl' ((mem_iff_of_filter_eq h).mp List.mem_cons_self)
      have hkey : key y = key x := hrank (le_antisymm hyx hxy)
      -- under their common key the two heads come first on both sides
      have hhead := h (key x)
      rw [List.filter_cons_of_pos (by simp), List.filter_cons_of_pos (by simp [hkey])] at hhead
      obtain ⟨rfl, -⟩ := List.cons.inj hhead
      refine congrArg (x :: ·) (ih hl.of_cons hl'.of_cons fun k => ?_)
      have hk := h k
      rw [List.filter_cons, List.filter_cons] at hk
      split at hk
      · exact (List.cons.inj hk).2
      · exact hk

/-- Lists of one member at most are known by their members. -/
theorem eq_of_length_le_one (hl : l.length ≤ 1) (hl' : l'.length ≤ 1)
    (h : ∀ x, x ∈ l ↔ x ∈ l') : l = l' := by
  have hcases (l : List α) (hl : l.length ≤ 1) : l = [] ∨ ∃ x, l = [x] := by
    rcases Nat.le_one_iff_eq_zero_or_eq_one.mp hl with hl | hl
    · exact .inl (List.length_eq_zero_iff.mp hl)
    · exact .inr (List.length_eq_one_iff.mp hl)
  rcases hcases l hl with rfl | ⟨x, rfl⟩ <;> rcases hcases l' hl' with rfl | ⟨y, rfl⟩
  · rfl
  · exact absurd ((h y).mpr List.mem_cons_self) List.not_mem_nil
  · exact absurd ((h x).mp List.mem_cons_self) List.not_mem_nil
  · rw [List.mem_singleton.mp ((h x).mp List.mem_cons_self)]

end

/-! ## What a report has to say -/

/-- **A rule of the check.** -/
inductive Rule where
  | bindAddress
  | targetUrl
  | timeout
  | countries (list : CountryList)
  | cacheSize
  | metricsAddress
deriving DecidableEq

namespace Rule

/-- The rules in the order in which their problems are told. -/
def all : List Rule :=
  [.bindAddress, .targetUrl, .timeout, .countries .allow, .countries .block, .cacheSize,
    .metricsAddress]

/-- The place of a rule in this order. -/
def place (r : Rule) : Nat := all.idxOf r

theorem mem_all (r : Rule) : r ∈ all := by
  cases r with
  | countries list => cases list <;> decide
  | _ => decide

theorem place_injective : Function.Injective place := fun r _ h =>
  (List.idxOf_inj (mem_all r)).mp h

end Rule

/-- The rule that a problem is about. -/
def Problem.rule : Problem → Rule
  | .bindAddress _ => .bindAddress
  | .targetUrl _ _ => .targetUrl
  | .zeroTimeout => .timeout
  | .countryCode list _ => .countries list
  | .cacheSize => .cacheSize
  | .metricsAddress _ => .metricsAddress

/-- The entry of a country list that a problem is about. -/
def Problem.entry? (list : CountryList) : Problem → Option String
  | .countryCode l code => if l = list then some code else none
  | _ => none

/-- The entries of a country list. -/
def countryEntries (c : Config) : CountryList → List String
  | .allow => c.geoip.allowCountries
  | .block => c.geoip.blockCountries

/-- **Two letters**, `A` to `Z` or `a` to `z`, and blanks around them. -/
def IsTwoLetters (entry : String) : Prop :=
  ∃ a b : Char, trimChars entry.toList = [a, b] ∧ a.isAlpha = true ∧ b.isAlpha = true

instance : DecidablePred IsTwoLetters := fun _ => decidable_of_iff _ isCountryCode_iff

/-- **Why a target is refused**: it is no URL, or one of another scheme, or one without
a host. -/
inductive Refused (text : String) : TargetError → Prop
  | notAUrl {e : Url.UrlError} (h : Url.parse text = .error e) : Refused text (.notAUrl e)
  | unsupportedScheme {url : Url} (h : Url.parse text = .ok url) (hscheme : url.scheme ≠ "http") :
    Refused text (.unsupportedScheme url.scheme)
  | missingHost {url : Url} (h : Url.parse text = .ok url) (hscheme : url.scheme = "http")
    (hhost : url.host = none) : Refused text .missingHost

/-- **A configuration has a problem.** No case looks at the settings of another. -/
inductive Broken (c : Config) : Problem → Prop
  | bindAddress (h : Endpoint.parse? c.listener.bindAddress = none) :
    Broken c (.bindAddress c.listener.bindAddress)
  | targetUrl {reason : TargetError} (h : Refused c.backend.targetUrl reason) :
    Broken c (.targetUrl c.backend.targetUrl reason)
  | timeout (h : c.timeouts.requestSecs = 0) : Broken c .zeroTimeout
  | countries {list : CountryList} {entry : String} (h : entry ∈ c.countryEntries list)
    (hentry : ¬ IsTwoLetters entry) : Broken c (.countryCode list entry)
  | cacheSize (h : c.cache.enabled = true) (hsize : c.cache.capacity < c.cache.maxItemSize) :
    Broken c .cacheSize
  | metricsAddress (h : c.observability.metricsEnabled = true)
    (haddress : Endpoint.parse? c.observability.metricsAddress = none) :
    Broken c (.metricsAddress c.observability.metricsAddress)

/-- **A report on a configuration**, said by what is in it and in which order. -/
structure Reports (c : Config) (ps : List Problem) : Prop where
  /-- Every problem is told, and nothing else is. -/
  complete : ∀ p, p ∈ ps ↔ Broken c p
  /-- A rule that is not about entries is told once. -/
  once : ∀ r, (∀ list, r ≠ .countries list) → (ps.filter (·.rule = r)).length ≤ 1
  /-- The entries told are the offending ones in the order of their list, each as often
  as it is written. -/
  entries : ∀ list, ps.filterMap (Problem.entry? list)
    = (c.countryEntries list).filter (¬ IsTwoLetters ·)
  /-- The rules come in their order. -/
  inOrder : ps.Pairwise fun p q => p.rule.place ≤ q.rule.place

/-! ## What the check finds -/

theorem targetError?_eq_some_iff {text : String} {reason : TargetError} :
    targetError? text = some reason ↔ Refused text reason := by
  unfold targetError?
  constructor
  · intro h
    split at h
    · next e hparse =>
      cases h
      exact .notAUrl hparse
    · next url hparse =>
      split at h
      · next hscheme =>
        cases h
        exact .unsupportedScheme hparse hscheme
      · next hscheme =>
        split at h
        · next hhost =>
          cases h
          exact .missingHost hparse (not_not.mp hscheme) (Option.isNone_iff_eq_none.mp hhost)
        · cases h
  · intro h
    cases h with
    | notAUrl h => rw [h]
    | unsupportedScheme h hscheme =>
      rw [h]
      exact if_pos hscheme
    | missingHost h hscheme hhost =>
      rw [h]
      simp [hscheme, hhost]

/-- A configuration that keeps every rule, said by its settings. -/
theorem acceptable_iff : Acceptable c
    ↔ (∃ e, Endpoint.parse? c.listener.bindAddress = some e)
      ∧ (∃ url host, Url.parse c.backend.targetUrl = .ok url ∧ url.scheme = "http"
        ∧ url.host = some host)
      ∧ 0 < c.timeouts.requestSecs
      ∧ (∀ list, ∀ entry ∈ c.countryEntries list, IsTwoLetters entry)
      ∧ (c.cache.enabled = false ∨ c.cache.maxItemSize ≤ c.cache.capacity)
      ∧ (c.observability.metricsEnabled = false
        ∨ ∃ e, Endpoint.parse? c.observability.metricsAddress = some e) := by
  have hendpoint (s : String) : isEndpoint s = true ↔ ∃ e, Endpoint.parse? s = some e :=
    Option.isSome_iff_exists
  have hentry (e : String) : isCountryCode e = true ↔ IsTwoLetters e := isCountryCode_iff
  have hswitch (b : Bool) (p : Prop) : b = false ∨ p ↔ (b = true → p) := by
    cases b <;> simp
  rw [hswitch, hswitch]
  constructor
  · rintro ⟨bind, target, timeout, allow, block, cache, metrics⟩
    refine ⟨(hendpoint _).mp bind, targetError?_eq_none_iff.mp target, timeout, ?_, cache,
      fun h => (hendpoint _).mp (metrics h)⟩
    intro list entry he
    cases list with
    | allow => exact (hentry entry).mp (allow entry he)
    | block => exact (hentry entry).mp (block entry he)
  · rintro ⟨bind, target, timeout, entries, cache, metrics⟩
    exact ⟨(hendpoint _).mpr bind, targetError?_eq_none_iff.mpr target, timeout,
      fun e he => (hentry e).mpr (entries .allow e he),
      fun e he => (hentry e).mpr (entries .block e he), cache,
      fun h => (hendpoint _).mpr (metrics h)⟩

/-- What the check finds under a rule. -/
def found (c : Config) : Rule → List Problem
  | .bindAddress =>
    problemIf (!isEndpoint c.listener.bindAddress) (.bindAddress c.listener.bindAddress)
  | .targetUrl =>
    ((targetError? c.backend.targetUrl).map (.targetUrl c.backend.targetUrl)).toList
  | .timeout => problemIf (c.timeouts.requestSecs == 0) .zeroTimeout
  | .countries list => codeProblems list (c.countryEntries list)
  | .cacheSize =>
    problemIf (c.cache.enabled && c.cache.capacity < c.cache.maxItemSize) .cacheSize
  | .metricsAddress =>
    problemIf (c.observability.metricsEnabled && !isEndpoint c.observability.metricsAddress)
      (.metricsAddress c.observability.metricsAddress)

/-- **The check goes through the rules in their order.** -/
theorem problems_eq_flatMap (c : Config) : c.problems = Rule.all.flatMap c.found := by
  simp only [problems, Rule.all, List.flatMap_cons, List.flatMap_nil, List.append_nil,
    List.append_assoc, found, countryEntries]
  cases targetError? c.backend.targetUrl <;> rfl

theorem mem_problemIf {b : Bool} {p q : Problem} : p ∈ problemIf b q ↔ b = true ∧ p = q := by
  cases b <;> simp [problemIf]

theorem codeProblems_eq_map (list : CountryList) (entries : List String) :
    codeProblems list entries
      = (entries.filter (¬ IsTwoLetters ·)).map (.countryCode list) := by
  induction entries with
  | nil => rfl
  | cons e entries ih =>
    have hcode : isCountryCode e = true ↔ IsTwoLetters e := isCountryCode_iff
    rw [codeProblems, List.flatMap_cons, ← codeProblems, ih]
    by_cases he : IsTwoLetters e
    · simp [problemIf, he, hcode.mpr he]
    · have hfalse : isCountryCode e = false := Bool.eq_false_iff.mpr fun h => he (hcode.mp h)
      simp [problemIf, he, hfalse]

theorem not_isEndpoint_iff {s : String} :
    (!isEndpoint s) = true ↔ Endpoint.parse? s = none := by
  unfold isEndpoint
  rw [Bool.not_eq_true', Option.isSome_eq_false_iff, Option.isNone_iff_eq_none]

/-- **What is found under a rule** is what the rule is about and what is broken. -/
theorem mem_found_iff {r : Rule} {p : Problem} : p ∈ c.found r ↔ p.rule = r ∧ Broken c p := by
  constructor
  · intro h
    cases r with
    | bindAddress =>
      obtain ⟨hb, rfl⟩ := mem_problemIf.mp h
      exact ⟨rfl, .bindAddress (not_isEndpoint_iff.mp hb)⟩
    | targetUrl =>
      obtain ⟨reason, hreason, rfl⟩ := Option.map_eq_some_iff.mp (Option.mem_toList.mp h)
      exact ⟨rfl, .targetUrl (targetError?_eq_some_iff.mp hreason)⟩
    | timeout =>
      obtain ⟨hb, rfl⟩ := mem_problemIf.mp h
      exact ⟨rfl, .timeout (beq_iff_eq.mp hb)⟩
    | countries list =>
      rw [found, codeProblems_eq_map] at h
      obtain ⟨e, he, rfl⟩ := List.mem_map.mp h
      obtain ⟨he, hletters⟩ := List.mem_filter.mp he
      exact ⟨rfl, .countries he (of_decide_eq_true hletters)⟩
    | cacheSize =>
      obtain ⟨hb, rfl⟩ := mem_problemIf.mp h
      obtain ⟨henabled, hsize⟩ := Bool.and_eq_true_iff.mp hb
      exact ⟨rfl, .cacheSize henabled (of_decide_eq_true hsize)⟩
    | metricsAddress =>
      obtain ⟨hb, rfl⟩ := mem_problemIf.mp h
      obtain ⟨henabled, haddress⟩ := Bool.and_eq_true_iff.mp hb
      exact ⟨rfl, .metricsAddress henabled (not_isEndpoint_iff.mp haddress)⟩
  · rintro ⟨rfl, h⟩
    cases h with
    | bindAddress h => exact mem_problemIf.mpr ⟨not_isEndpoint_iff.mpr h, rfl⟩
    | targetUrl h =>
      exact Option.mem_toList.mpr
        (Option.map_eq_some_iff.mpr ⟨_, targetError?_eq_some_iff.mpr h, rfl⟩)
    | timeout h => exact mem_problemIf.mpr ⟨beq_iff_eq.mpr h, rfl⟩
    | countries h hentry =>
      rw [Problem.rule, found, codeProblems_eq_map]
      exact List.mem_map_of_mem (List.mem_filter.mpr ⟨h, decide_eq_true hentry⟩)
    | cacheSize h hsize =>
      exact mem_problemIf.mpr ⟨Bool.and_eq_true_iff.mpr ⟨h, decide_eq_true hsize⟩, rfl⟩
    | metricsAddress h haddress =>
      exact mem_problemIf.mpr
        ⟨Bool.and_eq_true_iff.mpr ⟨h, not_isEndpoint_iff.mpr haddress⟩, rfl⟩

theorem length_problemIf_le {b : Bool} {p : Problem} : (problemIf b p).length ≤ 1 := by
  cases b <;> simp [problemIf]

theorem length_found_le {r : Rule} (hr : ∀ list, r ≠ .countries list) :
    (c.found r).length ≤ 1 := by
  cases r with
  | countries list => exact absurd rfl (hr list)
  | targetUrl => exact Option.length_toList_le
  | _ => exact length_problemIf_le

/-- The problems of a rule are found under this rule. -/
theorem filter_problems (r : Rule) : c.problems.filter (·.rule = r) = c.found r := by
  have hfound (r' : Rule) :
      (c.found r').filter (·.rule = r) = if r' = r then c.found r' else [] := by
    split
    · next hr =>
      exact List.filter_eq_self.mpr fun p hp => decide_eq_true ((mem_found_iff.mp hp).1.trans hr)
    · next hr =>
      refine List.filter_eq_nil_iff.mpr fun p hp hrule => hr ?_
      exact (mem_found_iff.mp hp).1.symm.trans (of_decide_eq_true hrule)
  rw [problems_eq_flatMap, List.filter_flatMap]
  simp only [hfound]
  cases r with
  | countries list => cases list <;> simp [Rule.all]
  | _ => simp [Rule.all]

/-- The entries told under a list, and the problems they are told in. -/
theorem filter_countries (ps : List Problem) (list : CountryList) :
    ps.filter (·.rule = .countries list)
      = (ps.filterMap (Problem.entry? list)).map (.countryCode list) := by
  induction ps with
  | nil => rfl
  | cons p ps ih =>
    rw [List.filter_cons, List.filterMap_cons, ih]
    cases p with
    | countryCode l code => by_cases hl : l = list <;> simp [Problem.rule, Problem.entry?, hl]
    | _ => rfl

/-! ## The report -/

theorem reports_problems (c : Config) : Reports c c.problems where
  complete p := by
    rw [problems_eq_flatMap, List.mem_flatMap]
    constructor
    · rintro ⟨r, -, hp⟩
      exact (mem_found_iff.mp hp).2
    · intro h
      exact ⟨p.rule, Rule.mem_all _, mem_found_iff.mpr ⟨rfl, h⟩⟩
  once r hr := by
    rw [filter_problems]
    exact length_found_le hr
  entries list := by
    have hinj : Function.Injective (Problem.countryCode list) := fun _ _ h => by cases h; rfl
    apply List.map_injective_iff.mpr hinj
    rw [← filter_countries, filter_problems, found, codeProblems_eq_map]
  inOrder := by
    have hplaces : Rule.all.Pairwise (·.place ≤ ·.place) := by decide
    rw [problems_eq_flatMap, List.pairwise_flatMap]
    constructor
    · intro r _
      refine List.pairwise_of_forall_mem_list fun p hp q hq => ?_
      rw [(mem_found_iff.mp hp).1, (mem_found_iff.mp hq).1]
    · refine hplaces.imp fun hle p hp q hq => ?_
      rwa [(mem_found_iff.mp hp).1, (mem_found_iff.mp hq).1]

/-- Under each rule there is only one way to report. -/
theorem Reports.filter_eq (h : Reports c ps) (r : Rule) :
    ps.filter (·.rule = r) = c.found r := by
  by_cases hr : ∃ list, r = .countries list
  · obtain ⟨list, rfl⟩ := hr
    rw [filter_countries, h.entries, found, codeProblems_eq_map]
  · have hr : ∀ list, r ≠ .countries list := not_exists.mp hr
    refine eq_of_length_le_one (h.once r hr) (length_found_le hr) fun p => ?_
    rw [List.mem_filter, h.complete, decide_eq_true_eq, mem_found_iff, and_comm]

/-- **There is one report on a configuration**, and the check makes it. -/
theorem reports_iff : Reports c ps ↔ ps = c.problems := by
  constructor
  · intro h
    refine eq_of_filter_eq Rule.place_injective h.inOrder (reports_problems c).inOrder fun r => ?_
    rw [h.filter_eq, filter_problems]
  · rintro rfl
    exact reports_problems c

/-! ## Reading and checking -/

/-- **A reading with the check behind it**: what was read comes out if there is nothing
to tell about it, all that there is to tell comes out otherwise, and what could not be
read comes out as it is. -/
structure Checks (unchecked checked : Except ReadError Config) : Prop where
  ok_iff : ∀ c, checked = .ok c ↔ unchecked = .ok c ∧ c.problems = []
  invalid_iff : ∀ ps, checked = .error (.invalid ps)
    ↔ ps ≠ [] ∧ ∃ c, unchecked = .ok c ∧ ps = c.problems
  error_iff : ∀ e, (∀ ps, e ≠ .invalid ps) → (checked = .error e ↔ unchecked = .error e)

theorem accept_of_nil (h : c.problems = []) : accept c = .ok c := by
  unfold accept
  rw [h]
  rfl

theorem accept_of_ne_nil (h : c.problems ≠ []) : accept c = .error (.invalid c.problems) :=
  if_neg fun hempty => h (List.isEmpty_iff.mp hempty)

/-- **The check stands behind a reading** which itself finds nothing invalid. -/
theorem checks_accept {unchecked : Except ReadError Config}
    (h : ∀ ps, unchecked ≠ .error (.invalid ps)) : Checks unchecked (unchecked >>= accept) := by
  cases unchecked with
  | error e =>
    show Checks (.error e) (.error e)
    refine ⟨by simp, fun ps => ?_, fun _ _ => Iff.rfl⟩
    simpa using fun he : e = .invalid ps => h ps (congrArg Except.error he)
  | ok c =>
    show Checks (.ok c) (accept c)
    by_cases hc : c.problems = []
    · rw [accept_of_nil hc]
      refine ⟨fun d => ?_, fun ps => ?_, fun _ _ => Iff.rfl⟩
      · refine ⟨fun hd => ⟨hd, ?_⟩, And.left⟩
        rwa [← Except.ok.inj hd]
      · simp [hc]
    · rw [accept_of_ne_nil hc]
      refine ⟨fun d => ?_, fun ps => ?_, fun e he => ?_⟩
      · simpa using fun hd : c = d => hd ▸ hc
      · rw [Except.error.injEq, ReadError.invalid.injEq]
        constructor
        · rintro rfl
          exact ⟨hc, c, rfl, rfl⟩
        · rintro ⟨-, d, hd, rfl⟩
          rw [Except.ok.inj hd]
      · simpa using (he c.problems).symm

theorem read_ne_invalid (text : String) (ps : List Problem) :
    read text ≠ .error (.invalid ps) := by
  unfold read
  split <;> simp

theorem ofFile_ne_invalid (file : Option Bytes) (ps : List Problem) :
    ofFile file ≠ .error (.invalid ps) := by
  unfold ofFile fileText
  split
  · exact read_ne_invalid _ ps
  · exact fun h => nomatch h

theorem ofFile_of_utf8? {data : Bytes} {text : String} (h : Bytes.utf8? data = some text) :
    ofFile (some data) = read text := by
  unfold ofFile fileText
  rw [Option.bind_some, h]
  rfl

/-- **Loading a file** is reading it and checking what was read. -/
theorem load_eq (file : Option Bytes) : load file = ofFile file >>= accept := by
  unfold load ofFile
  cases fileText file <;> rfl

end Gatehouse.Config

namespace Gatehouse.Launch

open Config

variable {m : Type → Type} [Monad m] {L R : Type}

/-! ## The beginning of a run -/

/-- **How a run begins** with what became of its configuration. Where it could not be
read, the run ends before it has done anything, and where there are problems with it,
once the log has begun; otherwise the run tells that it starts, and goes on. -/
def Begins (h : Host m L R) :
    Except ReadError Config → m (Except LaunchError Unit) → Prop
  | .ok c, program => ∃ rest, program = do
      h.startLog (LogFilter.settle h.logFilter c.observability.logLevel) c.observability.logFormat
      h.report (.starting c.listener.bindAddress c.backend.targetUrl c.geoip.enabled)
      rest
  | .error (.invalid ps), program => ∃ filter format, program = do
      h.startLog filter format
      return .error (.config (.invalid ps))
  | .error e, program => program = return .error (.config e)

variable [LawfulMonad m]

/-- A run that has a configuration goes on with checking it. -/
theorem exists_run_eq (h : Host m L R) :
    ∃ start : Config → ExceptT LaunchError m Unit,
      (∀ o, run h o = readConfig h o >>= start)
        ∧ ∀ c, Begins h (accept c) (start c).run := by
  refine ⟨_, fun o => rfl, fun c => ?_⟩
  by_cases hc : c.problems = []
  · rw [accept_of_nil hc]
    simp only [hc, List.isEmpty_nil, Bool.not_true, Bool.false_eq_true, ↓reduceIte,
      ExceptT.run_bind, ExceptT.run_liftM, ExceptT.run_lift, bind_map_left]
    exact ⟨_, rfl⟩
  · have hnonempty : (!c.problems.isEmpty) = true := by simpa using hc
    rw [accept_of_ne_nil hc]
    refine ⟨LogFilter.settle h.logFilter c.observability.logLevel, c.observability.logFormat, ?_⟩
    simp [hnonempty]

/-- **A run reads, overrides and checks**, in this order, whatever the machine has under
the path. -/
theorem exists_run_begins (h : Host m L R) {o : Options} {path : String}
    (ho : o.config = some path) :
    ∃ course : Files.Opened → m (Except LaunchError Unit),
      (run h o).run = h.openFile path >>= course
        ∧ ∀ opened, Begins h (do accept (override (← Config.ofFile (contents? opened)) o))
          (course opened) := by
  obtain ⟨start, hrun, hstart⟩ := exists_run_eq h
  -- what the file holds, with an error of reading it as an error of the run
  let held (opened : Files.Opened) : ExceptT LaunchError m Config :=
    ExceptT.mk (pure ((Config.ofFile (contents? opened)).mapError .config))
  refine ⟨fun opened => (do start (override (← held opened) o)).run, ?_, fun opened => ?_⟩
  · rw [hrun]
    unfold readConfig
    rw [ho]
    simp only [bind_assoc, ExceptT.run_bind, ExceptT.run_liftM, bind_map_left]
    refine bind_congr fun opened => ?_
    cases hread : Config.ofFile (contents? opened) <;> simp [held, hread, Except.mapError]
  · beta_reduce
    cases hread : Config.ofFile (contents? opened) with
    | ok c =>
      have hheld : held opened = pure c := by simp only [held, hread]; rfl
      rw [hheld, pure_bind]
      exact hstart (override c o)
    | error e =>
      have hheld : held opened = throw (.config e) := by simp only [held, hread]; rfl
      rw [hheld, ExceptT.run_bind, ExceptT.run_throw, pure_bind]
      cases e with
      | invalid ps => exact absurd hread (ofFile_ne_invalid _ ps)
      | _ => rfl

end Gatehouse.Launch

namespace Gatehouse.Config

open Launch

/-! ## The whole check -/

/-- **A configuration is refused for everything that is wrong with it**, and for nothing
else.

There is no problem exactly if the endpoint can be read, the target is a URL of plain HTTP
with a host, a request has some time, every entry of both country lists is two letters,
the cache is off or holds its largest item, and the metrics are off or their endpoint can
be read. Otherwise the problems are the one list with every problem in it, once for each
rule and for each offending entry, in the order of the rules and of the entries. A text
and a file make the configuration they write down, or this list of problems, or the error
of reading them; and a run with this file and no other option goes on with the same
configuration, or ends with the same error. -/
theorem problems_told (c : Config) :
    (c.problems = []
        ↔ (∃ e, Endpoint.parse? c.listener.bindAddress = some e)
          ∧ (∃ url host, Url.parse c.backend.targetUrl = .ok url ∧ url.scheme = "http"
            ∧ url.host = some host)
          ∧ 0 < c.timeouts.requestSecs
          ∧ (∀ list, ∀ entry ∈ c.countryEntries list, IsTwoLetters entry)
          ∧ (c.cache.enabled = false ∨ c.cache.maxItemSize ≤ c.cache.capacity)
          ∧ (c.observability.metricsEnabled = false
            ∨ ∃ e, Endpoint.parse? c.observability.metricsAddress = some e))
      ∧ (∀ ps, Reports c ps ↔ ps = c.problems)
      ∧ (∀ text, Checks (read text) (parse text))
      ∧ (∀ file, Checks (ofFile file) (load file))
      ∧ (∀ {m : Type → Type} [Monad m] [LawfulMonad m] {L R : Type} (h : Host m L R)
        (path : String), ∃ course : Files.Opened → m (Except LaunchError Unit),
          (run h { config := some path }).run = h.openFile path >>= course
            ∧ ∀ opened, Begins h (load (contents? opened)) (course opened)) := by
  refine ⟨problems_eq_nil_iff.trans acceptable_iff, fun _ => reports_iff,
    fun text => checks_accept (read_ne_invalid text), fun file => ?_, fun h path => ?_⟩
  · rw [load_eq]
    exact checks_accept (ofFile_ne_invalid file)
  · obtain ⟨course, hrun, hbegins⟩ := exists_run_begins h (o := { config := some path }) rfl
    refine ⟨course, hrun, fun opened => ?_⟩
    rw [load_eq]
    -- what no option overrides is as it was read
    exact hbegins opened

/-- A file in which three rules are broken, one of them twice. -/
def brokenText : String :=
  "[timeouts]\nrequest_secs=0\n[geoip]\nblock_countries=[\"1x\",\"CN\",\"1x\"]\n"
    ++ "[cache]\ncapacity_bytes=9"

/-- The configuration in this file. -/
def brokenConfig : Config where
  timeouts := ⟨0⟩
  geoip := { blockCountries := ["1x", "CN", "1x"] }
  cache := { capacity := 9 }

/-- A machine on which every path leads to this file, and on which nothing else works. -/
def brokenHost : Host Id Unit Unit where
  openFile _ := .found (.file (Bytes.ofString brokenText)) 0
  logFilter := none
  startLog _ _ := ()
  report _ := ()
  exposeMetrics _ := false
  bind _ := none
  endpoint _ := ⟨.v4 ⟨0, 0, 0, 0⟩, 0⟩
  start _ _ _ := ()
  awaitSignal := .terminate
  drain _ := ()

/-- **All of it is told**, in the order of the rules and of the entries: where the file is
read as a text, where it is loaded, and where a run begins with it. -/
theorem problems_told_broken :
    let told : List Problem :=
      [.zeroTimeout, .countryCode .block "1x", .countryCode .block "1x", .cacheSize]
    parse brokenText = .error (.invalid told)
      ∧ load (some (Bytes.ofString brokenText)) = .error (.invalid told)
      ∧ (run brokenHost { config := some "gate.toml" }).run
        = .error (.config (.invalid told)) := by
  intro told
  have htold : told = brokenConfig.problems := by decide +kernel
  have hread : read brokenText = .ok brokenConfig := by decide +kernel
  have hutf8 : Bytes.utf8? (Bytes.ofString brokenText) = some brokenText := by decide +kernel
  have hofFile : ofFile (some (Bytes.ofString brokenText)) = .ok brokenConfig :=
    (ofFile_of_utf8? hutf8).trans hread
  obtain ⟨-, -, htext, hfile, hrun⟩ := problems_told brokenConfig
  have hload := ((hfile _).invalid_iff told).mpr
    ⟨List.cons_ne_nil _ _, brokenConfig, hofFile, htold⟩
  refine ⟨((htext _).invalid_iff told).mpr
    ⟨List.cons_ne_nil _ _, brokenConfig, hread, htold⟩, hload, ?_⟩
  obtain ⟨course, hcourse, hbegins⟩ := hrun brokenHost "gate.toml"
  have hfound := hbegins (.found (.file (Bytes.ofString brokenText)) 0)
  rw [contents?, hload] at hfound
  obtain ⟨filter, format, hfound⟩ := hfound
  exact hcourse.trans hfound

end Gatehouse.Config
