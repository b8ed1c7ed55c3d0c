import Gatehouse.Http.Uri
import Gatehouse.Proofs.Text

/-!
# Which texts are authorities

An authority is checked by a scan that counts colons and watches brackets. Most of the
characters an authority may have mean nothing to it, and a text that has only these and
colons, no more than the scan puts up with, takes it from one count to another
(`Http.Uri.foldlM_step`). A host and its port are made of such texts, with brackets
around an address of version six, and that they are authorities is a matter of
counting. Where one of the characters is out of place in any authority, the scan ends
there, whatever it has met before (`Http.Uri.foldlM_step_of_bad`).
-/

namespace Gatehouse.Http.Uri

open Text

/-- Whether a character stands in an authority as part of a name or a number and
nothing else. -/
def isPlainChar (c : Char) : Bool := isAuthorityChar c && !":[]@%".toList.contains c

theorem isPlainChar_iff {c : Char} : isPlainChar c = true
    ↔ isAuthorityChar c = true ∧ c ≠ ':' ∧ c ≠ '[' ∧ c ≠ ']' ∧ c ≠ '@' ∧ c ≠ '%' := by
  simp [isPlainChar]

variable {s : AuthorityScan} {cs : List Char}

/-! ## One step -/

theorem step_of_isPlainChar {c : Char} (hc : isPlainChar c = true) (hend : s.atEnd = false) :
    s.step c = .ok s := by
  obtain ⟨colons, opened, closed, percent, _⟩ := s
  subst hend
  obtain ⟨hchar, hcolon, hopen, hclose, hat, hpercent⟩ := isPlainChar_iff.mp hc
  simp [AuthorityScan.step, hchar, hcolon, hopen, hclose, hat, hpercent]

theorem step_colon (hend : s.atEnd = false) (hcolons : s.colons < 8) :
    s.step ':' = .ok { s with colons := s.colons + 1 } := by
  obtain ⟨colons, opened, closed, percent, _⟩ := s
  subst hend
  have hchar : isAuthorityChar ':' = true := by decide
  simp [AuthorityScan.step, hchar, Nat.not_le.mpr hcolons]

theorem step_of_bad {c : Char} (hc : isAuthorityChar c = false) :
    s.step c = .error .badCharacter := by
  unfold AuthorityScan.step
  rw [hc]
  rfl

/-! ## Names and numbers between colons -/

/-- **A scan of plain characters and colons** counts the colons and changes in nothing
else. -/
theorem foldlM_step (hcs : ∀ c ∈ cs, isPlainChar c = true ∨ c = ':') (hend : s.atEnd = false)
    (hcolons : s.colons + cs.count ':' ≤ 8) :
    cs.foldlM AuthorityScan.step s = .ok { s with colons := s.colons + cs.count ':' } := by
  induction cs generalizing s with
  | nil => rfl
  | cons c cs ih =>
    have hrest : ∀ c ∈ cs, isPlainChar c = true ∨ c = ':' := fun x hx =>
      hcs x (List.mem_cons_of_mem c hx)
    rw [List.foldlM_cons]
    by_cases hc : c = ':'
    · subst hc
      rw [List.count_cons_self] at hcolons
      rw [step_colon hend (by omega)]
      refine (ih (s := { s with colons := s.colons + 1 }) hrest hend ?_).trans ?_
      · show s.colons + 1 + cs.count ':' ≤ 8
        omega
      · rw [List.count_cons_self, Nat.add_assoc, Nat.add_comm 1]
    · have hplain := (hcs c List.mem_cons_self).resolve_right hc
      rw [List.count_cons_of_ne (by exact hc)] at hcolons ⊢
      rw [step_of_isPlainChar hplain hend]
      exact ih hrest hend hcolons

/-- **A bad character ends the scan**, if nothing else in front of it does. -/
theorem foldlM_step_of_bad (hcs : ∀ c ∈ cs, isPlainChar c = true ∨ isAuthorityChar c = false)
    (hbad : ∃ c ∈ cs, isAuthorityChar c = false) (hend : s.atEnd = false) :
    cs.foldlM AuthorityScan.step s = .error .badCharacter := by
  induction cs with
  | nil =>
    obtain ⟨_, hc, -⟩ := hbad
    cases hc
  | cons c cs ih =>
    rw [List.foldlM_cons]
    rcases hcs c List.mem_cons_self with hplain | hc
    · rw [step_of_isPlainChar hplain hend]
      refine ih (fun x hx => hcs x (List.mem_cons_of_mem c hx)) ?_
      obtain ⟨x, hx, hxbad⟩ := hbad
      rcases List.mem_cons.mp hx with rfl | hx
      · rw [(isPlainChar_iff.mp hplain).1] at hxbad
        cases hxbad
      · exact ⟨x, hx, hxbad⟩
    · rw [step_of_bad hc]
      rfl

/-! ## Hosts with ports -/

variable {host port : List Char}

/-- What a scan has met before the first character. -/
def AuthorityScan.fresh : AuthorityScan := ⟨0, false, false, false, false⟩

/-- An authority is kept as it is written. -/
theorem eq_of_readAuthority {text : List Char} {a : String} (h : readAuthority text = .ok a) :
    a = String.ofList text := by
  unfold readAuthority at h
  split at h
  · obtain ⟨_, hthrow, -⟩ := exists_of_bind_eq_ok h
    cases hthrow
  · obtain ⟨_, -, h⟩ := exists_of_bind_eq_ok h
    cases h
    rfl

theorem readAuthority_of_scan {text : List Char} (hne : text ≠ [])
    (hscan : text.foldlM AuthorityScan.step .fresh = .ok s) (hfinal : s.isFinal = true) :
    readAuthority text = .ok (String.ofList text) := by
  have hcheck : checkAuthority text = .ok () := by
    unfold checkAuthority
    show text.foldlM AuthorityScan.step .fresh >>= _ = _
    rw [hscan]
    exact if_pos hfinal
  unfold readAuthority
  rw [if_neg (by rwa [List.isEmpty_iff]), hcheck]
  rfl

theorem count_colon (hcs : ∀ c ∈ cs, isPlainChar c = true) : cs.count ':' = 0 :=
  List.count_eq_zero.mpr fun hmem => absurd (hcs _ hmem) (by decide)

/-- A colon and a plain port are the last thing that a scan meets. -/
theorem foldlM_step_port (hport : ∀ c ∈ port, isPlainChar c = true) (hend : s.atEnd = false)
    (hcolons : s.colons = 0) :
    (':' :: port).foldlM AuthorityScan.step s = .ok { s with colons := 1 } := by
  have hcount : s.colons + (':' :: port).count ':' = 1 := by
    rw [List.count_cons_self, count_colon hport, hcolons]
  rw [foldlM_step _ hend (hcount ▸ by decide), hcount]
  intro c hc
  exact (List.mem_cons.mp hc).symm.imp_left (hport c)

/-- **A plain host with a plain port** is an authority. -/
theorem readAuthority_of_plain (hhost : ∀ c ∈ host, isPlainChar c = true)
    (hport : ∀ c ∈ port, isPlainChar c = true) :
    readAuthority (host ++ ':' :: port) = .ok (String.ofList (host ++ ':' :: port)) := by
  have hname : host.foldlM AuthorityScan.step .fresh = .ok .fresh := by
    rw [foldlM_step (fun c hc => Or.inl (hhost c hc)) rfl
      (by rw [count_colon hhost]; decide), count_colon hhost]
    rfl
  refine readAuthority_of_scan (s := ⟨1, false, false, false, false⟩) (by simp) ?_ rfl
  rw [List.foldlM_append, hname]
  exact foldlM_step_port (s := .fresh) hport rfl rfl

/-- **So is an address in brackets**, which may have colons, with a plain port. -/
theorem readAuthority_of_brackets (hhost : ∀ c ∈ host, isPlainChar c = true ∨ c = ':')
    (hcolons : host.count ':' ≤ 8) (hport : ∀ c ∈ port, isPlainChar c = true) :
    readAuthority ('[' :: host ++ [']'] ++ ':' :: port)
      = .ok (String.ofList ('[' :: host ++ [']'] ++ ':' :: port)) := by
  have hinside := foldlM_step (s := ⟨0, true, false, false, false⟩) hhost rfl
    (by simpa using hcolons)
  refine readAuthority_of_scan (s := ⟨1, true, true, false, false⟩) (by simp) ?_ rfl
  rw [List.foldlM_append, List.cons_append, List.foldlM_cons]
  show (host ++ [']']).foldlM AuthorityScan.step ⟨0, true, false, false, false⟩ >>= _ = _
  rw [List.foldlM_append, hinside]
  -- the bracket closes, and the colons inside do not count any more
  exact foldlM_step_port (s := ⟨0, true, true, false, false⟩) hport rfl rfl

/-- **A host with a bad character** is refused for it, with any port. -/
theorem readAuthority_of_bad
    (hhost : ∀ c ∈ host, isPlainChar c = true ∨ isAuthorityChar c = false)
    (hbad : ∃ c ∈ host, isAuthorityChar c = false) (port : List Char) :
    readAuthority (host ++ ':' :: port) = .error .badCharacter := by
  have hcheck : checkAuthority (host ++ ':' :: port) = .error .badCharacter := by
    unfold checkAuthority
    rw [List.foldlM_append, foldlM_step_of_bad hhost hbad rfl]
    rfl
  unfold readAuthority
  rw [if_neg (by simp), hcheck]
  rfl

end Gatehouse.Http.Uri
