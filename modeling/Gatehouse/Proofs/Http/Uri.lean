import Mathlib
import Gatehouse.Http.Uri

/-!
# What a request URI that was read looks like

A request URI comes in four forms, but what is asked for, its path and
query, comes in two only: the asterisk, and a text that begins with a slash
or, where an absolute URI has a query and no path, with a question mark.

It is also a text that has been read as a path and query before, so reading it
again changes nothing (`Http.Uri.targetChars?_of_parse?`). If more of a path is put
in front of it, what is read is the two together and no more than that: the
first question mark of the whole is that of the request, and there is nothing
to cut off (`Http.Uri.targetChars?_append`).
-/

namespace Gatehouse.Http.Uri

/-! ## Paths and queries -/

/-- A path has no place where a query or a fragment begins. -/
theorem ne_of_isPathChar {c : Char} (h : isPathChar c = true) : c ≠ '?' ∧ c ≠ '#' := by
  constructor <;> rintro rfl <;> exact absurd h (by decide)

/-- **More of a path in front** is read along with the rest, if there is one. -/
theorem targetChars?_append {base s : List Char} (hbase : ∀ c ∈ base, isPathChar c = true)
    (hs : withoutFragment s ≠ []) :
    targetChars? (base ++ s) = (targetChars? s).map (base ++ ·) := by
  have hfragment : withoutFragment (base ++ s) = base ++ withoutFragment s :=
    List.takeWhile_append_of_pos fun c hc => bne_iff_ne.mpr (ne_of_isPathChar (hbase c hc)).2
  have hquery : ∀ c ∈ base, (c != '?') = true := fun c hc =>
    bne_iff_ne.mpr (ne_of_isPathChar (hbase c hc)).1
  have hall : base.all isPathChar = true := List.all_eq_true.mpr hbase
  have hempty : (base ++ withoutFragment s).isEmpty = false := by simp [hs]
  have hempty' : (withoutFragment s).isEmpty = false := by simpa using hs
  unfold targetChars?
  dsimp only
  rw [hfragment, List.takeWhile_append_of_pos hquery, List.dropWhile_append_of_pos hquery,
    List.all_append, hall, Bool.true_and, hempty, hempty']
  split <;> rfl

/-- **What was read is read again** as it is, and is not empty. -/
theorem targetChars?_of_targetChars? {s t : List Char} (h : targetChars? s = some t) :
    targetChars? t = some t ∧ withoutFragment t ≠ [] := by
  unfold targetChars? at h
  dsimp only at h
  split at h
  · next hchars =>
    cases h
    split
    · exact ⟨by decide, by decide⟩
    · next hempty =>
      have hagain : withoutFragment (withoutFragment s) = withoutFragment s :=
        List.takeWhile_idem
      rw [hagain]
      refine ⟨?_, fun hnil => hempty (List.isEmpty_iff.mpr hnil)⟩
      unfold targetChars?
      dsimp only
      rw [hagain, if_pos hchars, if_neg hempty]
  · cases h

/-! ## What is asked for -/

/-- A list of characters that begins as a path or as a query does. -/
def BeginsTarget (cs : List Char) : Prop :=
  ∃ c rest, cs = c :: rest ∧ (c = '/' ∨ c = '?')

/-- What is read from the text behind an authority begins so: its fragment
is gone, and where nothing else is left, `/` stands in. -/
theorem beginsTarget_of_targetChars? {s t : List Char}
    (hs : ∀ c ∈ s.head?, endsAuthority c = true) (h : targetChars? s = some t) :
    BeginsTarget t := by
  unfold targetChars? at h
  dsimp only at h
  split at h
  · cases h
    cases s with
    | nil => exact ⟨'/', [], rfl, Or.inl rfl⟩
    | cons c rest =>
      have hc := hs c rfl
      by_cases hhash : c = '#'
      · subst hhash
        exact ⟨'/', [], rfl, Or.inl rfl⟩
      · have hfirst : withoutFragment (c :: rest) = c :: withoutFragment rest := by
          unfold withoutFragment
          rw [List.takeWhile_cons, if_pos (by simpa using hhash)]
        rw [hfirst]
        refine ⟨c, _, rfl, ?_⟩
        simpa [endsAuthority, hhash] using hc
  · cases h

/-- An absolute URI has its target from behind the authority, and a bare authority is
asked for its root, as if nothing stood there. -/
theorem exists_targetChars?_of_full? {s : List Char} {u : Uri} (h : full? s = some u) :
    ∃ rest : List Char, (∀ c ∈ rest.head?, endsAuthority c = true)
      ∧ targetChars? rest = some u.targetOrRoot.toList := by
  unfold full? at h
  split at h
  · split at h
    · cases h
      exact ⟨[], by simp, by simp [targetOrRoot, targetChars?, withoutFragment]⟩
    · cases h
  · next scheme rest _ =>
    simp only [Option.bind_eq_bind, Option.bind_eq_some_iff, Option.pure_def,
      Option.some.injEq] at h
    obtain ⟨-, -, -, -, t, ht, rfl⟩ := h
    refine ⟨rest.dropWhile (!endsAuthority ·), fun c hc => ?_, ?_⟩
    · -- the authority has taken everything up to here
      have hhead := List.head?_dropWhile_not (!endsAuthority ·) rest
      rw [Option.mem_def.mp hc] at hhead
      simpa using hhead
    · rw [ht]
      exact congrArg some (String.toList_ofList).symm

/-- What is asked for is the asterisk or has been read behind an authority. -/
theorem exists_targetChars?_of_parse? {text : String} {u : Uri} (h : parse? text = some u) :
    u.targetOrRoot = "*"
    ∨ ∃ rest : List Char, (∀ c ∈ rest.head?, endsAuthority c = true)
      ∧ targetChars? rest = some u.targetOrRoot.toList := by
  unfold parse? at h
  dsimp only at h
  split at h
  · cases h
  · split at h
    · cases h
    · cases h
      exact Or.inl rfl
    · next rest hslash =>
      obtain ⟨t, ht, rfl⟩ := Option.map_eq_some_iff.mp h
      refine Or.inr ⟨text.toList, ?_, ht.trans (congrArg some (String.toList_ofList).symm)⟩
      rw [hslash]
      rintro c ⟨⟩
      rfl
    · exact Or.inr (exists_targetChars?_of_full? h)

/-- **A target that was read** begins so, or is the asterisk. -/
theorem targetOrRoot_of_parse? {text : String} {u : Uri}
    (h : parse? text = some u) :
    u.targetOrRoot = "*" ∨ BeginsTarget u.targetOrRoot.toList :=
  (exists_targetChars?_of_parse? h).imp_right fun ⟨_, hs, ht⟩ =>
    beginsTarget_of_targetChars? hs ht

/-- **What is asked for is read as it is**, and there is always something. -/
theorem targetChars?_of_parse? {text : String} {u : Uri} (h : parse? text = some u) :
    targetChars? u.targetOrRoot.toList = some u.targetOrRoot.toList
      ∧ withoutFragment u.targetOrRoot.toList ≠ [] := by
  rcases exists_targetChars?_of_parse? h with hstar | ⟨_, -, ht⟩
  · rw [hstar]
    exact ⟨by decide, by decide⟩
  · exact targetChars?_of_targetChars? ht

/-- Something is always asked for. -/
theorem targetOrRoot_ne_empty {text : String} {u : Uri}
    (h : parse? text = some u) : u.targetOrRoot ≠ "" := by
  intro hempty
  refine (targetChars?_of_parse? h).2 ?_
  rw [hempty]
  rfl

end Gatehouse.Http.Uri
