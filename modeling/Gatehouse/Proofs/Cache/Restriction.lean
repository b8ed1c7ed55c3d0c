import Mathlib
import Gatehouse.Proofs.Cache.Directive
import Gatehouse.Proofs.Cache.Rule

/-!
# Which directives the rule of the cache hears

The rule splits at every comma and compares what lies between two commas,
argument and all, with the words that it knows. What it hears in this way is
told exactly by `mem_pieces_iff`: a word that is a directive without argument,
and a word that stands between commas of a quoted string.

So no response is stored that carries a restriction without argument, in
whatever case and on whatever line. But a restriction with an argument goes
unheard (`Directives.ofValues_cons_argued`), and `public` is heard also where
no directive has that name.
-/

namespace Gatehouse.Cache

open Http Text

/-- The words that keep a response out of shared caches. -/
def restrictions : List String := ["private", "no-store", "no-cache"]

namespace Directives

/-! ## Directives one after the other -/

/-- Only one word says that a response is for everyone. -/
theorem isPublic_add (d : Directives) (word : String) :
    (d.add word).isPublic = true ↔ d.isPublic = true ∨ word = "public" := by
  unfold add
  split
  · next h => simp [h]
  · next h =>
    split
    · simp [h]
    · split
      · simp [h]
      · split <;> simp [h]

/-- Three words restrict it. -/
theorem isRestricted_add (d : Directives) (word : String) :
    (d.add word).isRestricted = true ↔ d.isRestricted = true ∨ word ∈ restrictions := by
  unfold add restrictions
  split
  · next h => simp [h]
  · split
    · next h => exact iff_of_true rfl (Or.inr (by simpa [or_assoc] using h))
    · next h =>
      simp only [Bool.or_eq_true, decide_eq_true_eq, not_or] at h
      split
      · simp [h]
      · split <;> simp [h]

theorem isPublic_foldl (d : Directives) (words : List String) :
    (words.foldl add d).isPublic = true ↔ d.isPublic = true ∨ "public" ∈ words := by
  induction words generalizing d with
  | nil => simp
  | cons word words ih =>
    rw [List.foldl_cons, ih, isPublic_add, List.mem_cons, or_assoc, @eq_comm _ word]

theorem isRestricted_foldl (d : Directives) (words : List String) :
    (words.foldl add d).isRestricted = true
      ↔ d.isRestricted = true ∨ ∃ word ∈ restrictions, word ∈ words := by
  induction words generalizing d with
  | nil => simp
  | cons word words ih =>
    rw [List.foldl_cons, ih, isRestricted_add, or_assoc]
    simp only [List.mem_cons, and_or_left, exists_or, exists_eq_right]

/-- **Directives give a lifetime** if they say `public`, restrict nothing, and
the number that counts is positive. -/
theorem lifetime?_eq_some_iff {d : Directives} {seconds : Nat} :
    d.lifetime? = some seconds ↔ d.isPublic = true ∧ d.isRestricted = false
      ∧ d.sharedMaxAge.or d.maxAge = some seconds ∧ 0 < seconds := by
  unfold lifetime?
  by_cases h : d.isPublic = true ∧ d.isRestricted = false
  · rw [if_pos (by simp [h]), Option.filter_eq_some_iff]
    simp [h]
  · rw [if_neg (by simpa using h)]
    simp only [reduceCtorEq, false_iff]
    exact fun hall => h ⟨hall.1, hall.2.1⟩

/-! ## What lies between two commas -/

theorem pieces_eq_flatMap_members (s : String) : pieces s = (members s).flatMap pieces := by
  unfold pieces
  rw [commaPieces_eq_flatMap_members, List.map_flatMap]

theorem pieces_append_comma (s t : String) : pieces (s ++ "," ++ t) = pieces s ++ pieces t := by
  have hsplit : commaPieces (s ++ "," ++ t) = commaPieces s ++ commaPieces t := by
    unfold commaPieces
    rw [String.toList_append, String.toList_append, List.append_assoc]
    show List.map _ (splitAt _ (s.toList ++ ',' :: t.toList)) = _
    rw [splitAt_append_sep rfl, List.map_append]
  unfold pieces
  rw [hsplit, List.map_append]

/-- Where there are values at all, their pieces are those of the whole list. -/
theorem pieces_join {values : List String} (h : values ≠ []) :
    pieces (join "," values) = values.flatMap pieces := by
  induction values with
  | nil => exact absurd rfl h
  | cons value values ih =>
    cases values with
    | nil => rw [List.flatMap_singleton]; rfl
    | cons next values =>
      show pieces (value ++ "," ++ join "," (next :: values)) = _
      rw [pieces_append_comma, ih (List.cons_ne_nil _ _)]
      rfl

/-- A member without commas is one piece. -/
theorem pieces_of_not_mem {member : String} (h : ',' ∉ member.toList) :
    pieces member = [lower (trim member)] := by
  have hsplit : splitAt (· == ',') member.toList = [member.toList] :=
    splitAt_of_forall fun c hc => beq_eq_false_iff_ne.mpr fun hcomma => h (hcomma ▸ hc)
  unfold pieces commaPieces
  rw [hsplit, List.map_singleton, String.ofList_toList, List.map_singleton]

end Directives

/-- What lies between the commas of members that have any, which is inside of
quoted strings. Where such a string is never closed, this includes what is
behind its last comma. -/
def asides (values : List String) : List String :=
  ((members (join "," values)).filter (·.toList.contains ',')).flatMap Directives.pieces

/-- A change to lower case leaves a sign in its place. -/
theorem mem_lower {s : String} {c : Char} (hc : c ∈ s.toList) (hsame : c.toLower = c) :
    c ∈ (lower s).toList := by
  unfold lower
  rw [String.toList_ofList, List.mem_map]
  exact ⟨c, hc, hsame⟩

/-- A member is a word without argument if it is the word but for case and
blanks. -/
theorem ofMember_eq_iff {word member : String} (hword : isToken word = true) :
    Directive.ofMember member = ⟨word, none⟩ ↔ lower (trim member) = word := by
  unfold Directive.ofMember
  constructor
  · intro h
    split at h
    · simp only [Directive.mk.injEq, reduceCtorEq, and_false] at h
    · exact (Directive.mk.inj h).1
  · rintro rfl
    have hequals : ∀ c ∈ (trim member).toList, (c == '=') = false := by
      intro c hc
      rw [beq_eq_false_iff_ne]
      rintro rfl
      exact (isPlain_of_mem_token hword (mem_lower hc rfl)).notEquals rfl
    rw [cutAt?_of_forall hequals]

/-- A word is among the pieces of a member if it is the member, or if the
member has commas and the word stands between them. -/
theorem mem_pieces_member_iff {word member : String} (hword : isToken word = true) :
    word ∈ Directives.pieces member ↔ Directive.ofMember member = ⟨word, none⟩
      ∨ member.toList.contains ',' = true ∧ word ∈ Directives.pieces member := by
  by_cases hcomma : ',' ∈ member.toList
  -- a comma outlives trimming and the change of case, and no word has one
  · have hne : lower (trim member) ≠ word := by
      rintro rfl
      have htrimmed : ',' ∈ (trim member).toList := by
        unfold trim
        rw [String.toList_ofList]
        exact mem_trimChars hcomma rfl
      exact (isPlain_of_mem_token hword (mem_lower htrimmed rfl)).notComma rfl
    rw [ofMember_eq_iff hword, List.contains_iff_mem]
    simp only [hne, hcomma, false_or, true_and]
  · rw [ofMember_eq_iff hword, Directives.pieces_of_not_mem hcomma, List.contains_iff_mem,
      List.mem_singleton, eq_comm]
    simp only [hcomma, false_and, or_false]

/-- **What the rule hears.** A word is among the pieces between commas if it is
a directive without argument, or stands between commas of a quoted string. -/
theorem mem_pieces_iff {word : String} (hword : isToken word = true) (values : List String) :
    word ∈ values.flatMap Directives.pieces
      ↔ ⟨word, none⟩ ∈ directives values ∨ word ∈ asides values := by
  have hne : word ≠ "" := by
    rintro rfl
    exact (isToken_iff.mp hword).1 rfl
  have hjoin : word ∈ values.flatMap Directives.pieces
      ↔ word ∈ Directives.pieces (join "," values) := by
    cases values with
    -- no values at all are read as one that is empty, which adds no word
    | nil =>
      have hempty : Directives.pieces (join "," []) = [""] := rfl
      rw [hempty, List.mem_singleton]
      simp [hne]
    | cons value values => rw [Directives.pieces_join (List.cons_ne_nil _ _)]
  rw [hjoin, Directives.pieces_eq_flatMap_members, List.mem_flatMap]
  unfold directives asides
  rw [List.mem_flatMap, List.mem_filter, List.mem_map]
  constructor
  · rintro ⟨member, hmember, hpiece⟩
    rcases (mem_pieces_member_iff hword).mp hpiece with h | ⟨hcomma, h⟩
    · exact Or.inl ⟨⟨member, hmember, h⟩, decide_eq_true hne⟩
    · exact Or.inr ⟨member, List.mem_filter.mpr ⟨hmember, hcomma⟩, h⟩
  · rintro (⟨⟨member, hmember, h⟩, -⟩ | ⟨member, hmember, h⟩)
    · exact ⟨member, hmember, (mem_pieces_member_iff hword).mpr (Or.inl h)⟩
    · exact ⟨member, (List.mem_filter.mp hmember).1, h⟩

/-! ## What is not heard -/

/-- The name of a restriction has no effect where an equals sign follows. -/
theorem Directives.add_of_toList {d : Directives} {word name : String} {rest : List Char}
    (hname : name ∈ restrictions) (hword : word.toList = name.toList ++ '=' :: rest) :
    d.add word = d := by
  have hequals : '=' ∈ word.toList := by
    rw [hword]
    exact List.mem_append_right _ List.mem_cons_self
  have hne {known : String} (hknown : '=' ∉ known.toList) : word ≠ known :=
    fun h => hknown (h ▸ hequals)
  have hlead : afterLead? "s-maxage=".toList word.toList = none
      ∧ afterLead? "max-age=".toList word.toList = none := by
    rw [hword]
    simp only [restrictions, List.mem_cons, List.not_mem_nil, or_false] at hname
    rcases hname with rfl | rfl | rfl <;> exact ⟨rfl, rfl⟩
  have hpublic : word ≠ "public" := hne (by decide)
  have hprivate : word ≠ "private" := hne (by decide)
  have hstore : word ≠ "no-store" := hne (by decide)
  have hcache : word ≠ "no-cache" := hne (by decide)
  unfold Directives.add
  rw [if_neg hpublic, if_neg (by simp [hprivate, hstore, hcache]), hlead.1, hlead.2]

/-- **A restriction with an argument goes unheard.** All other lines are heard
as if it were not there, though it is read as a directive
(`directives_cons_written`). -/
theorem Directives.ofValues_cons_argued {d : Directive} {argument : String} (hd : d.Writable)
    (hname : d.name ∈ restrictions) (hargument : d.argument = some argument)
    (hcomma : ',' ∉ argument.toList) (values : List String) :
    ofValues (d.written :: values) = ofValues values := by
  have hwritten := Directive.toList_written_of_some hargument
  have hpiece : pieces d.written = [lower d.written] := by
    rw [pieces_of_not_mem, hd.trim_written]
    rw [hwritten, List.mem_append, List.mem_cons]
    rintro (h | h | h)
    · exact (isPlain_of_mem_token hd.name h).notComma rfl
    · exact absurd h (by decide)
    · exact hcomma h
  have hlower : (lower d.written).toList
      = d.name.toList ++ '=' :: argument.toList.map Char.toLower := by
    have hname : d.name.toList.map Char.toLower = d.name.toList := by
      conv_rhs => rw [← hd.lower, lower, String.toList_ofList]
    rw [lower, String.toList_ofList, hwritten, List.map_append, hname, List.map_cons]
    rfl
  unfold ofValues
  rw [List.flatMap_cons, hpiece, List.singleton_append, List.foldl_cons,
    add_of_toList hname hlower]

/-! ## What is stored -/

/-- **When `public` is heard.** -/
theorem Directives.isPublic_ofValues_iff (values : List String) :
    (ofValues values).isPublic = true
      ↔ ⟨"public", none⟩ ∈ directives values ∨ "public" ∈ asides values := by
  have hword : isToken "public" = true := by decide +kernel
  unfold ofValues
  rw [isPublic_foldl, mem_pieces_iff hword]
  simp [empty]

/-- **When no restriction is heard.** -/
theorem Directives.isRestricted_ofValues_iff (values : List String) :
    (ofValues values).isRestricted = false
      ↔ ∀ word ∈ restrictions, ⟨word, none⟩ ∉ directives values ∧ word ∉ asides values := by
  have hwords : ∀ word ∈ restrictions, isToken word = true := by decide +kernel
  unfold ofValues
  rw [← Bool.not_eq_true, isRestricted_foldl]
  simp only [empty, Bool.false_eq_true, false_or, not_exists, not_and]
  refine forall₂_congr fun word hword => ?_
  rw [mem_pieces_iff (hwords word hword), not_or]

/-- **No response with a bare restriction is stored.** A response has a
lifetime exactly if these hold: it is `200` without `Set-Cookie` and its `Vary`
values leave it reusable; its length is known and within the limit; its
`Cache-Control` values are text in which `public` is heard and no restriction
is, and the number that counts is positive. Of the restrictions, those without
argument are always heard. One with an argument is a directive as well, and
whatever the other lines are, they are heard as if it were not there. -/
theorem lifetime?_eq_some_iff_heard {a : Response} {limit seconds : Nat} :
    (lifetime? a limit = some seconds ↔ a.status = Status.ok
      ∧ a.headers.contains "set-cookie" = false
      ∧ (a.headers.values "vary").all isReusableVary = true
      ∧ ∃ n, announcedLength? a = some n ∧ n ≤ limit
      ∧ ∃ values, (a.headers.values "cache-control").mapM Bytes.text? = some values
        ∧ (⟨"public", none⟩ ∈ directives values ∨ "public" ∈ asides values)
        ∧ (∀ word ∈ restrictions, ⟨word, none⟩ ∉ directives values ∧ word ∉ asides values)
        ∧ (Directives.ofValues values).sharedMaxAge.or (Directives.ofValues values).maxAge
          = some seconds
        ∧ 0 < seconds)
    ∧ ∀ (d : Directive) (argument : String), d.Writable → d.name ∈ restrictions →
      d.argument = some argument → ',' ∉ argument.toList → ∀ values,
        directives (d.written :: values) = d :: directives values
          ∧ Directives.ofValues (d.written :: values) = Directives.ofValues values := by
  refine ⟨?_, fun d argument hd hname hargument hcomma values =>
    ⟨directives_cons_written hd values,
      Directives.ofValues_cons_argued hd hname hargument hcomma values⟩⟩
  rw [lifetime?_eq_some_iff]
  simp only [Directives.lifetime?_eq_some_iff, Directives.isPublic_ofValues_iff,
    Directives.isRestricted_ofValues_iff]

/-- A page with one `Cache-Control` line. -/
def pageWith (line : String) : Response :=
  ⟨Status.ok, Headers.empty.append "cache-control" (Bytes.ofString line), Body.ofString "x"⟩

/-- **A page is stored though it is restricted, or nowhere `public`.** The
first is `private` for one field, the second has the word in a quoted
string. -/
theorem lifetime?_unheard :
    let restricted := "public, max-age=60, private=\"set-cookie\""
    let aside := "note=\"a, public, b\", max-age=60"
    (lifetime? (pageWith restricted) 100 = some 60
      ∧ ⟨"private", some "\"set-cookie\""⟩ ∈ directives [restricted])
    ∧ lifetime? (pageWith aside) 100 = some 60
      ∧ ∀ d ∈ directives [aside], d.name ≠ "public" := by
  decide +kernel

end Gatehouse.Cache
