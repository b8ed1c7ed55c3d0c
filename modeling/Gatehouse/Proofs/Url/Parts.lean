import Gatehouse.Http.Uri
import Gatehouse.Proofs.Url.Name
import Gatehouse.Url.Parser

/-!
# What the parts of a URL are made of

A URL that was read has been taken apart, and its parts have been written anew: the
host as a name in ASCII or as an address, the path with its dots resolved and percent
encoded. Whoever puts the parts to use knows them only by what the reader promises,
and what it promises is said here. A host of a known scheme has been read as one, so
that a name has host characters only (`Url.Host.isHostChar_of_parse`), and a path has
nothing but characters that a request may have in its path
(`Url.isPathChar_of_mem_readPath`). In particular there is no mark in it at which a
query or a fragment could begin.
-/

namespace Gatehouse.Url

open Text Http

/-! ## Hosts -/

/-- **A name that was read** has host characters only. -/
theorem Host.isHostChar_of_parse {s : List Char} {n : String} (h : Host.parse s = .ok (.name n)) :
    ∀ c ∈ n.toList, isHostChar c = true := by
  unfold Host.parse at h
  split at h
  · unfold bracketed at h
    split at h <;> cases h
  · split at h
    · cases h
    · split at h
      · cases h
      · cases h
      · next ascii _ hascii =>
        split at h
        · split at h <;> cases h
        · cases h
          rw [String.toList_ofList]
          exact Idna.isHostChar_of_toAscii? hascii

/-- The host of an authority of a known scheme has been read as one. -/
theorem exists_parse_of_place {scheme : String} {s : List Char} {p : Place} {host : Host}
    (hknown : isKnown scheme = true) (h : place scheme s = .ok p) (hhost : p.host = some host) :
    ∃ t, Host.parse t = .ok host := by
  unfold place at h
  simp only [hknown, if_true] at h
  split at h
  · obtain ⟨_, hthrow, -⟩ := exists_of_bind_eq_ok h
    cases hthrow
  · obtain ⟨host', hparse, h⟩ := exists_of_bind_eq_ok h
    have hname : p.host = if host' = .name "" then none else some host' := by
      split at h
      · obtain ⟨_, -, h⟩ := exists_of_bind_eq_ok h
        cases h
        rfl
      · cases h
        rfl
    rw [hname, Option.ite_none_left_eq_some, Option.some.injEq] at hhost
    exact ⟨_, hhost.2 ▸ hparse⟩

/-! ## Paths -/

theorem isPathChar_hexDigit {n : Nat} (h : n < 16) : Uri.isPathChar (hexDigit n) = true :=
  (by decide : ∀ d : Fin 16, Uri.isPathChar (hexDigit d.1) = true) ⟨n, h⟩

/-- **What is percent encoded for a path** can stand in the path of a request. -/
theorem isPathChar_of_mem_percentEncode {s : List Char} :
    ∀ c ∈ percentEncode isEscapedInPath s, Uri.isPathChar c = true := by
  intro c hc
  obtain ⟨x, -, hc⟩ := List.mem_flatMap.mp hc
  unfold percentEncodeChar at hc
  split at hc
  · obtain ⟨b, -, hc⟩ := List.mem_flatMap.mp hc
    have hb := b.toNat_lt
    simp only [escapeByte, List.mem_cons, List.not_mem_nil, or_false] at hc
    rcases hc with rfl | rfl | rfl
    · decide
    · exact isPathChar_hexDigit (by omega)
    · exact isPathChar_hexDigit (by omega)
  · next hplain =>
    rw [List.mem_singleton.mp hc]
    have hplain := Bool.eq_false_iff.mpr hplain
    have hascii : x.toNat < 128 := by
      by_contra hwide
      have : isEscapedInPath x = true := by
        unfold isEscapedInPath isControlOrWide
        simp only [Bool.or_eq_true, decide_eq_true_eq]
        omega
      rw [this] at hplain
      cases hplain
    exact forall_ascii (P := fun x => isEscapedInPath x = false → Uri.isPathChar x = true)
      (by decide) hascii hplain

/-- Resolving dots leaves segments out and adds empty ones. -/
theorem mem_resolveDots {done segments : List (List Char)} {s : List Char}
    (h : s ∈ resolveDots done segments) : s = [] ∨ s ∈ done ∨ s ∈ segments := by
  fun_induction resolveDots done segments with
  | case1 done => exact Or.inr (Or.inl (List.mem_reverse.mp h))
  | case2 done last hdouble =>
    rcases List.mem_cons.mp (List.mem_reverse.mp h) with hs | hs
    · exact Or.inl hs
    · exact Or.inr (Or.inl (List.mem_of_mem_drop hs))
  | case3 done last _ hdot =>
    rcases List.mem_cons.mp (List.mem_reverse.mp h) with hs | hs
    · exact Or.inl hs
    · exact Or.inr (Or.inl hs)
  | case4 done last =>
    rcases List.mem_cons.mp (List.mem_reverse.mp h) with hs | hs
    · exact Or.inr (Or.inr (List.mem_singleton.mpr hs))
    · exact Or.inr (Or.inl hs)
  | case5 done s' rest _ hdouble ih =>
    exact (ih h).imp_right fun hs => hs.imp List.mem_of_mem_drop (List.mem_cons_of_mem s')
  | case6 done s' rest _ _ hdot ih =>
    exact (ih h).imp_right fun hs => hs.imp_right (List.mem_cons_of_mem s')
  | case7 done s' rest _ _ _ ih =>
    rcases ih h with hs | hs | hs
    · exact Or.inl hs
    · rcases List.mem_cons.mp hs with rfl | hs
      · exact Or.inr (Or.inr List.mem_cons_self)
      · exact Or.inr (Or.inl hs)
    · exact Or.inr (Or.inr (List.mem_cons_of_mem s' hs))

/-- **A path that was read** has characters of paths only. -/
theorem isPathChar_of_mem_readPath {known : Bool} {s : List Char} :
    ∀ c ∈ readPath known s, Uri.isPathChar c = true := by
  intro c hc
  unfold readPath at hc
  dsimp only at hc
  split at hc
  · split at hc
    · rw [List.mem_singleton.mp hc]
      decide
    · cases hc
  · obtain ⟨segment, hsegment, hc⟩ := List.mem_flatMap.mp hc
    rcases List.mem_cons.mp hc with rfl | hc
    · decide
    · rcases mem_resolveDots hsegment with rfl | hnone | hread
      · cases hc
      · cases hnone
      · obtain ⟨piece, -, rfl⟩ := List.mem_map.mp hread
        exact isPathChar_of_mem_percentEncode c hc

/-! ## URLs -/

/-- A URL with an authority keeps what the authority says, and has a path that was
read. -/
theorem eq_of_withAuthority {scheme : String} {s : List Char} {u : Url}
    (h : withAuthority scheme s = .ok u) :
    u.scheme = scheme ∧ (∃ a p, place scheme a = .ok p ∧ p.host = u.host)
      ∧ ∃ t, u.path = readPath (isKnown scheme) t := by
  unfold withAuthority at h
  dsimp only at h
  split at h
  · obtain ⟨p, hplace, h⟩ := exists_of_bind_eq_ok h
    cases h
    exact ⟨rfl, ⟨_, p, hplace, rfl⟩, _, rfl⟩
  · split at h
    · obtain ⟨_, hthrow, -⟩ := exists_of_bind_eq_ok h
      cases hthrow
    · obtain ⟨p, hplace, h⟩ := exists_of_bind_eq_ok h
      split at h
      · obtain ⟨_, hthrow, -⟩ := exists_of_bind_eq_ok h
        cases hthrow
      · cases h
        exact ⟨rfl, ⟨_, p, hplace, rfl⟩, _, rfl⟩

/-- A file URL names no port, and none is usual for it. -/
theorem effectivePort?_of_fileUrl {s : List Char} {u : Url} (h : fileUrl s = .ok u) :
    u.effectivePort? = none := by
  unfold fileUrl at h
  split at h
  · split at h
    · obtain ⟨host, -, h⟩ := exists_of_bind_eq_ok h
      cases h
      rfl
    · cases h
      rfl
  · cases h
    rfl

/-- **A URL with a host and a port** has an authority. -/
theorem exists_withAuthority_of_parse {text : String} {u : Url} (h : parse text = .ok u)
    (hhost : u.host ≠ none) (hport : u.effectivePort? ≠ none) :
    ∃ s, withAuthority u.scheme s = .ok u := by
  unfold parse at h
  split at h
  · cases h
  · split at h
    · exact absurd (effectivePort?_of_fileUrl h) hport
    · split at h
      · exact ⟨_, (eq_of_withAuthority h).1 ▸ h⟩
      · split at h
        · exact ⟨_, (eq_of_withAuthority h).1 ▸ h⟩
        · cases h
          exact absurd rfl hhost
        · cases h
          exact absurd rfl hhost

/-- **The path of such a URL** has characters of paths only. -/
theorem isPathChar_of_mem_path {text : String} {u : Url} (h : parse text = .ok u)
    (hhost : u.host ≠ none) (hport : u.effectivePort? ≠ none) :
    ∀ c ∈ u.path, Uri.isPathChar c = true := by
  obtain ⟨_, hread⟩ := exists_withAuthority_of_parse h hhost hport
  obtain ⟨-, -, _, hpath⟩ := eq_of_withAuthority hread
  rw [hpath]
  exact isPathChar_of_mem_readPath

end Gatehouse.Url
