import Gatehouse.Proofs.Bytes
import Gatehouse.Proofs.Cache.Rule
import Gatehouse.Proofs.Http.Uri

/-!
# What a key tells apart

A key is a host with a path and query behind it, and nothing between the
two. Where the one ends and the other begins is left to be seen from the
text, and it can be seen as long as a host is what a host looks like: with
neither a slash nor a question mark in it, it ends where the first of them
stands. But the host is whatever a client has written into a header, and
a host with a slash in it takes over a part of the path
(`RunsInto`). Nor is a host told apart that is not text, because it is
not looked at (`Unseen`).

These are all the ways in which two requests for different resources can
share a key (`key?_separates`).
-/

namespace Gatehouse.Cache

open Http

/-! ## Resources -/

/-- **The host that a request states**: the first value of its `Host`
header, whatever it is made of, or else the authority of its URI. -/
def statedHost (r : Request) : Bytes :=
  match r.headers.get? "host" with
  | some value => value
  | none => Bytes.ofString (r.uri.authority.getD "")

/-- **Requests for the same resource**: the same path and query at the same
host. -/
def SameResource (r r' : Request) : Prop :=
  statedHost r = statedHost r' ∧ r.uri.targetOrRoot = r'.uri.targetOrRoot

/-- **A host that runs into the path**: that of `r'` goes on with what the
target of `r` begins with. -/
def RunsInto (r r' : Request) : Prop :=
  ∃ run, run ≠ "" ∧ hostOf r' = hostOf r ++ run
    ∧ r.uri.targetOrRoot = run ++ r'.uri.targetOrRoot

/-- **A host that is not seen**: what the cache takes for the hosts is the
same, what the requests state is not. -/
def Unseen (r r' : Request) : Prop :=
  hostOf r = hostOf r' ∧ r.uri.targetOrRoot = r'.uri.targetOrRoot
    ∧ statedHost r ≠ statedHost r'

/-- **Requests that the cache confuses.** -/
def Confused (r r' : Request) : Prop :=
  RunsInto r r' ∨ RunsInto r' r ∨ Unseen r r'

/-- A request with a host as hosts are, and a URI that was read. -/
structure Regular (r : Request) : Prop where
  /-- The header, if there is one, is text. -/
  text : ∀ value ∈ r.headers.get? "host", value.text? ≠ none
  /-- The host keeps out of the path. -/
  host : '/' ∉ (hostOf r).toList ∧ '?' ∉ (hostOf r).toList
  uri : ∃ text, Uri.parse? text = some r.uri

/-- A stated host that is text, or that nothing is stated in place of, is
the one that the cache takes. -/
theorem statedHost_of_text {r : Request}
    (h : ∀ value ∈ r.headers.get? "host", value.text? ≠ none) :
    statedHost r = Bytes.ofString (hostOf r) := by
  unfold statedHost hostOf Headers.text?
  cases hvalue : r.headers.get? "host" with
  | none => rfl
  | some value =>
    obtain ⟨text, htext⟩ := Option.ne_none_iff_exists'.mp (h value hvalue)
    rw [Option.bind_some, htext]
    exact (Bytes.ofString_of_text? htext).symm

/-! ## Keys -/

/-- Two ways to cut one text in two differ by what stands between the
cuts. -/
theorem append_eq_append_iff {a b c d : String} :
    a ++ b = c ++ d ↔ (∃ run, c = a ++ run ∧ b = run ++ d)
      ∨ ∃ run, a = c ++ run ∧ d = run ++ b := by
  simp only [← String.toList_inj, String.toList_append]
  rw [List.append_eq_append_iff]
  constructor
  · rintro (⟨run, hc, hb⟩ | ⟨run, ha, hd⟩)
    · exact Or.inl ⟨String.ofList run, by rwa [String.toList_ofList],
        by rwa [String.toList_ofList]⟩
    · exact Or.inr ⟨String.ofList run, by rwa [String.toList_ofList],
        by rwa [String.toList_ofList]⟩
  · rintro (⟨run, hc, hb⟩ | ⟨run, ha, hd⟩)
    · exact Or.inl ⟨run.toList, hc, hb⟩
    · exact Or.inr ⟨run.toList, ha, hd⟩

/-- **Requests that share a key** have the same host and the same target,
or the host of one runs into the path of the other. -/
theorem key?_eq_key?_iff {r r' : Request} (hr : (key? r).isSome = true)
    (hr' : (key? r').isSome = true) :
    key? r = key? r'
      ↔ (hostOf r = hostOf r' ∧ r.uri.targetOrRoot = r'.uri.targetOrRoot)
        ∨ RunsInto r r' ∨ RunsInto r' r := by
  obtain ⟨key, hkey⟩ := Option.isSome_iff_exists.mp hr
  obtain ⟨key', hkey'⟩ := Option.isSome_iff_exists.mp hr'
  obtain ⟨-, -, hjoin⟩ := key?_eq_some_iff.mp hkey
  obtain ⟨-, -, hjoin'⟩ := key?_eq_some_iff.mp hkey'
  rw [hkey, hkey', Option.some_inj, ← hjoin, ← hjoin', append_eq_append_iff]
  constructor
  · rintro (⟨run, hhost, htarget⟩ | ⟨run, hhost, htarget⟩)
    · by_cases hrun : run = ""
      · subst hrun
        exact Or.inl ⟨by simpa using hhost.symm, by simpa using htarget⟩
      · exact Or.inr (Or.inl ⟨run, hrun, hhost, htarget⟩)
    · by_cases hrun : run = ""
      · subst hrun
        exact Or.inl ⟨by simpa using hhost, by simpa using htarget.symm⟩
      · exact Or.inr (Or.inr ⟨run, hrun, hhost, htarget⟩)
  · rintro (⟨hhost, htarget⟩ | ⟨run, -, hhost, htarget⟩
      | ⟨run, -, hhost, htarget⟩)
    · exact Or.inl ⟨"", by simpa using hhost.symm, by simpa using htarget⟩
    · exact Or.inl ⟨run, hhost, htarget⟩
    · exact Or.inr ⟨run, hhost, htarget⟩

/-- Where a host runs into a path, the paths differ. -/
theorem RunsInto.target_ne {r r' : Request} (h : RunsInto r r') :
    r.uri.targetOrRoot ≠ r'.uri.targetOrRoot := by
  obtain ⟨run, hrun, -, htarget⟩ := h
  intro hsame
  rw [hsame] at htarget
  have hlen := congrArg String.length htarget
  rw [String.length_append] at hlen
  exact hrun (String.length_eq_zero_iff.mp (by omega))

/-- A regular host does not run into a regular path: it would have to go on
with a character that no host has. -/
theorem Regular.not_runsInto {r r' : Request} (h : Regular r) (h' : Regular r') :
    ¬ RunsInto r r' := by
  rintro ⟨run, hrun, hhost, htarget⟩
  obtain ⟨text, htext⟩ := h.uri
  obtain ⟨text', htext'⟩ := h'.uri
  obtain ⟨c, rest, hchars⟩ : ∃ c rest, run.toList = c :: rest :=
    List.exists_cons_of_ne_nil fun hnil => hrun (String.toList_eq_nil_iff.mp hnil)
  have hc : c ∈ (hostOf r').toList := by
    rw [hhost, String.toList_append, hchars]
    simp
  have hbegins : r.uri.targetOrRoot.toList
      = c :: (rest ++ r'.uri.targetOrRoot.toList) := by
    rw [htarget, String.toList_append, hchars, List.cons_append]
  rcases Uri.targetOrRoot_of_parse? htext with hstar | ⟨d, rest', hd, hslash⟩
  · -- nothing is left of the asterisk for the other path
    rw [hstar] at hbegins
    obtain ⟨-, hnil⟩ := List.cons.inj hbegins
    have hpath := (List.append_eq_nil_iff.mp hnil.symm).2
    exact Uri.targetOrRoot_ne_empty htext' (String.toList_eq_nil_iff.mp hpath)
  · rw [hd] at hbegins
    obtain ⟨rfl, -⟩ := List.cons.inj hbegins
    rcases hslash with rfl | rfl
    · exact h'.host.1 hc
    · exact h'.host.2 hc

theorem Regular.not_unseen {r r' : Request} (h : Regular r) (h' : Regular r') :
    ¬ Unseen r r' := by
  rintro ⟨hhost, -, hstated⟩
  rw [statedHost_of_text h.text, statedHost_of_text h'.text, hhost] at hstated
  exact hstated rfl

/-- **Equal keys mean one resource, unless the requests are confused.** For
any two requests that have keys, the key separates their resources exactly
if neither host runs into the path of the other and both hosts are seen.
Requests whose hosts are as hosts are, and whose URIs were read, are never
confused. -/
theorem key?_separates (r r' : Request) (hr : (key? r).isSome = true)
    (hr' : (key? r').isSome = true) :
    ((key? r = key? r' → SameResource r r') ↔ ¬ Confused r r')
      ∧ (Regular r → Regular r' → ¬ Confused r r') := by
  refine ⟨⟨?_, ?_⟩, ?_⟩
  · rintro hsep (hruns | hruns | ⟨hhost, htarget, hstated⟩)
    · have hkeys := (key?_eq_key?_iff hr hr').mpr (Or.inr (Or.inl hruns))
      exact hruns.target_ne (hsep hkeys).2
    · have hkeys := (key?_eq_key?_iff hr hr').mpr (Or.inr (Or.inr hruns))
      exact hruns.target_ne (hsep hkeys).2.symm
    · have hkeys := (key?_eq_key?_iff hr hr').mpr (Or.inl ⟨hhost, htarget⟩)
      exact hstated (hsep hkeys).1
  · intro hclear hkeys
    rcases (key?_eq_key?_iff hr hr').mp hkeys with ⟨hhost, htarget⟩ | hruns | hruns
    · refine ⟨?_, htarget⟩
      apply Decidable.byContradiction
      exact fun hstated => hclear (Or.inr (Or.inr ⟨hhost, htarget, hstated⟩))
    · exact absurd (Or.inl hruns) hclear
    · exact absurd (Or.inr (Or.inl hruns)) hclear
  · rintro hreg hreg' (hruns | hruns | hunseen)
    · exact hreg.not_runsInto hreg' hruns
    · exact hreg'.not_runsInto hreg hruns
    · exact hreg.not_unseen hreg' hunseen

/-- A request for a path at a host. -/
def asking (host path : String) : Request :=
  ⟨.get, ⟨none, none, some path⟩, ⟨[⟨"host", Bytes.ofString host⟩]⟩, Body.empty,
    none, none⟩

/-- The requests for one path at two hosts are told apart. -/
theorem key?_separates_hosts :
    (key? (asking "example.com" "/a")).isSome = true
      ∧ (key? (asking "example.org" "/a")).isSome = true
      ∧ Regular (asking "example.com" "/a") ∧ Regular (asking "example.org" "/a")
      ∧ ¬ Confused (asking "example.com" "/a") (asking "example.org" "/a") := by
  have hcom : Regular (asking "example.com" "/a") :=
    ⟨by decide +kernel, by decide +kernel, "/a", by decide +kernel⟩
  have horg : Regular (asking "example.org" "/a") :=
    ⟨by decide +kernel, by decide +kernel, "/a", by decide +kernel⟩
  have hsome : (key? (asking "example.com" "/a")).isSome = true := by decide +kernel
  have hsome' : (key? (asking "example.org" "/a")).isSome = true := by decide +kernel
  exact ⟨hsome, hsome', hcom, horg,
    (key?_separates _ _ hsome hsome').2 hcom horg⟩

/-- **A host that runs into a path**: the page `/c` of the host `a/b` and
the page `/b/c` of the host `a` are two resources under one key. -/
theorem key?_confuses :
    (key? (asking "a/b" "/c")).isSome = true
      ∧ Uri.parse? "/c" = some (asking "a/b" "/c").uri
      ∧ Uri.parse? "/b/c" = some (asking "a" "/b/c").uri
      ∧ key? (asking "a/b" "/c") = key? (asking "a" "/b/c")
      ∧ ¬ SameResource (asking "a/b" "/c") (asking "a" "/b/c") := by
  refine ⟨by decide +kernel, by decide +kernel, by decide +kernel,
    by decide +kernel, fun h => ?_⟩
  have hhosts : Bytes.ofString "a/b" = Bytes.ofString "a" := h.1
  exact absurd hhosts (by decide +kernel)

end Gatehouse.Cache
