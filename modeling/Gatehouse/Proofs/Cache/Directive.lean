import Mathlib
import Gatehouse.Http.Token
import Gatehouse.Proofs.Text

/-!
# The directives of a response

All `Cache-Control` values together are one list with commas between its
members, and each member is a **directive**: a name in any case, and behind an
equals sign possibly an argument, which is a token or a quoted string. A comma
inside a quoted string separates nothing.

A reader of such lists has to keep track of the quotes (`Quoting`). It marks
every character with whether it stands outside of them, and then splits the
marked text as any other text is split (`members`). It reads every text, also
one that is no list of directives; of lists that are, it reads back what was
written (`directives_cons_written`).

The rule of the cache splits at every comma. This is finer, and so it sees the
pieces of the members (`commaPieces_eq_flatMap_members`).
-/

namespace Gatehouse.Cache

open Http Text

/-! ## Keeping track of the quotes -/

/-- Where a reader stands with regard to quoted strings. -/
inductive Quoting where
  | outside
  | inside
  /-- Inside, directly behind a backslash. -/
  | escaped
deriving DecidableEq

namespace Quoting

/-- Where the reader stands behind a character. -/
def next : Quoting → Char → Quoting
  | outside, c => if c = '"' then inside else outside
  | inside, c => if c = '"' then outside else if c = '\\' then escaped else inside
  | escaped, _ => inside

/-- Where the reader stands behind a text. -/
def behind (q : Quoting) (s : List Char) : Quoting := s.foldl next q

/-- The characters of a text, each with where the reader stands in front of
it. -/
def marks : Quoting → List Char → List (Char × Quoting)
  | _, [] => []
  | q, c :: cs => (c, q) :: marks (q.next c) cs

theorem map_fst_marks (q : Quoting) (s : List Char) : (q.marks s).map Prod.fst = s := by
  induction s generalizing q with
  | nil => rfl
  | cons c s ih => rw [marks, List.map_cons, ih]

theorem marks_append (q : Quoting) (s t : List Char) :
    q.marks (s ++ t) = q.marks s ++ (q.behind s).marks t := by
  induction s generalizing q with
  | nil => rfl
  | cons c s ih => rw [List.cons_append, marks, ih]; rfl

theorem behind_append (q : Quoting) (s t : List Char) :
    q.behind (s ++ t) = (q.behind s).behind t := List.foldl_append

end Quoting

/-- Whether a marked character separates members: a comma outside of quoted
strings. -/
def separates (mark : Char × Quoting) : Bool :=
  mark.1 == ',' && mark.2 == Quoting.outside

/-- The members of a list, quoted strings left whole. -/
def members (s : String) : List String :=
  (splitAt separates (Quoting.outside.marks s.toList)).map
    fun member => String.ofList (member.map Prod.fst)

/-- **Splitting at every comma is splitting the members once more.** -/
theorem commaPieces_eq_flatMap_members (s : String) :
    commaPieces s = (members s).flatMap commaPieces := by
  have hcoarse : ∀ mark, separates mark = true → (mark.1 == ',') = true :=
    fun _ h => (Bool.and_eq_true_iff.mp h).1
  have hsplit (ms : List (Char × Quoting)) :
      splitAt (· == ',') (ms.map Prod.fst)
        = (splitAt (fun mark => mark.1 == ',') ms).map (List.map Prod.fst) :=
    splitAt_map Prod.fst (fun _ => rfl) ms
  unfold commaPieces members
  conv_lhs => rw [← Quoting.map_fst_marks Quoting.outside s.toList, hsplit,
    splitAt_eq_flatMap hcoarse]
  rw [List.flatMap_map, List.map_flatMap, List.map_flatMap]
  congr 1
  funext member
  rw [String.toList_ofList, hsplit]

/-! ## Directives and how they are written -/

/-- A directive. -/
structure Directive where
  /-- The name, in lower case. -/
  name : String
  /-- What is behind the equals sign, as it was written. -/
  argument : Option String
deriving DecidableEq

/-- A character of a quoted string, as it is written. -/
def escape (c : Char) : List Char :=
  if c = '"' ∨ c = '\\' then ['\\', c] else [c]

/-- A quoted string, as it is written. -/
def quoted (s : List Char) : List Char :=
  '"' :: (s.flatMap escape ++ ['"'])

/-- What can stand behind the equals sign: a token or a quoted string. -/
def IsArgument (argument : String) : Prop :=
  isToken argument = true ∨ ∃ s, argument.toList = quoted s

namespace Directive

/-- The directive that is the member of a list. -/
def ofMember (member : String) : Directive :=
  match cutAt? (· == '=') (trim member).toList with
  | some (name, argument) =>
    ⟨lower (trim (String.ofList name)), some (String.ofList argument)⟩
  | none => ⟨lower (trim member), none⟩

/-- A directive as it is written. -/
def written (d : Directive) : String :=
  match d.argument with
  | some argument => d.name ++ "=" ++ argument
  | none => d.name

/-- A directive that can be written: the name is a token. -/
structure Writable (d : Directive) : Prop where
  name : isToken d.name = true
  lower : lower d.name = d.name
  argument : ∀ argument, d.argument = some argument → IsArgument argument

end Directive

/-- **The directives of header values read together.** Between two commas
there may be nothing, which is no directive. -/
def directives (values : List String) : List Directive :=
  ((members (join "," values)).map Directive.ofMember).filter (·.name ≠ "")

/-! ## Tokens -/

/-- The characters of tokens are ASCII. -/
theorem toNat_of_isTokenChar {c : Char} (h : isTokenChar c = true) : c.toNat < 128 := by
  simp only [isTokenChar, Bool.or_eq_true, beq_iff_eq] at h
  rcases h with (h | h) | h
  · simp only [Char.isAlphanum, Char.isAlpha, Char.isUpper, Char.isLower, Char.isDigit,
      Bool.or_eq_true, Bool.and_eq_true, decide_eq_true_eq, ge_iff_le,
      UInt32.le_iff_toNat_le] at h
    have hc : c.toNat = c.val.toNat := rfl
    have hZ : 'Z'.val.toNat = 90 := rfl
    have hz : 'z'.val.toNat = 122 := rfl
    have hnine : '9'.val.toNat = 57 := rfl
    omega
  · have hall : ("!#$%&'*+-.^_|~".toList.all fun x => decide (x.toNat < 128)) = true := by
      decide +kernel
    exact of_decide_eq_true (List.all_eq_true.mp hall c (List.contains_iff_mem.mp h))
  · omega

/-- A character that means nothing in a list of directives. -/
structure IsPlain (c : Char) : Prop where
  notBlank : isBlank c = false
  notComma : c ≠ ','
  notQuote : c ≠ '"'
  notEquals : c ≠ '='

/-- Tokens consist of such characters. -/
theorem isPlain_of_isTokenChar {c : Char} (h : isTokenChar c = true) : IsPlain c := by
  have hplain : ∀ n : Fin 128, isTokenChar (Char.ofNat n.1) = true →
      isBlank (Char.ofNat n.1) = false ∧ Char.ofNat n.1 ≠ ',' ∧ Char.ofNat n.1 ≠ '"'
        ∧ Char.ofNat n.1 ≠ '=' := by decide +kernel
  have hc := hplain ⟨c.toNat, toNat_of_isTokenChar h⟩
  rw [Char.ofNat_toNat] at hc
  obtain ⟨hblank, hcomma, hquote, hequals⟩ := hc h
  exact ⟨hblank, hcomma, hquote, hequals⟩

/-- A token has a first character. -/
theorem isToken_iff {s : String} :
    isToken s = true ↔ s.toList ≠ [] ∧ ∀ c ∈ s.toList, isTokenChar c = true := by
  simp [isToken]

theorem isPlain_of_mem_token {s : String} {c : Char} (hs : isToken s = true)
    (hc : c ∈ s.toList) : IsPlain c :=
  isPlain_of_isTokenChar ((isToken_iff.mp hs).2 c hc)

theorem trim_of_isToken {s : String} (hs : isToken s = true) : trim s = s := by
  unfold trim
  rw [trimChars_of_forall fun _ hc => (isPlain_of_mem_token hs hc).notBlank,
    String.ofList_toList]

/-! ## Texts that are one member -/

/-- A text that has no effect on the reader: it ends outside of quoted strings,
and no comma in it separates. -/
structure Closed (s : List Char) : Prop where
  behind : Quoting.outside.behind s = Quoting.outside
  marks : ∀ mark ∈ Quoting.outside.marks s, separates mark = false

namespace Closed

theorem append {s t : List Char} (hs : Closed s) (ht : Closed t) : Closed (s ++ t) where
  behind := by rw [Quoting.behind_append, hs.behind, ht.behind]
  marks := by
    intro mark hmark
    rw [Quoting.marks_append, hs.behind, List.mem_append] at hmark
    exact hmark.elim (hs.marks mark) (ht.marks mark)

/-- Without commas and quotes there is nothing to keep track of. -/
theorem of_forall {s : List Char} (h : ∀ c ∈ s, c ≠ ',' ∧ c ≠ '"') : Closed s := by
  induction s with
  | nil => exact ⟨rfl, nofun⟩
  | cons c s ih =>
    obtain ⟨hcomma, hquote⟩ := h c List.mem_cons_self
    have hrest := ih fun x hx => h x (List.mem_cons_of_mem c hx)
    have hnext : Quoting.outside.next c = Quoting.outside := if_neg hquote
    refine ⟨?_, ?_⟩
    · show (Quoting.outside.next c).behind s = _
      rw [hnext, hrest.behind]
    · intro mark hmark
      rw [Quoting.marks, hnext, List.mem_cons] at hmark
      rcases hmark with rfl | hmark
      · simp [separates, hcomma]
      · exact hrest.marks mark hmark

end Closed

namespace Quoting

/-- Inside of a quoted string, escaped text keeps the reader inside. -/
theorem inside_escaped (s : List Char) :
    inside.behind (s.flatMap escape) = inside
      ∧ ∀ mark ∈ inside.marks (s.flatMap escape), mark.2 ≠ outside := by
  induction s with
  | nil => exact ⟨rfl, nofun⟩
  | cons c s ih =>
    -- behind a backslash the reader is back inside, whatever was escaped
    have hescape : inside.behind (escape c) = inside
        ∧ ∀ mark ∈ inside.marks (escape c), mark.2 ≠ outside := by
      unfold escape
      split
      · next h => rcases h with rfl | rfl <;> decide
      · next h =>
        obtain ⟨hquote, hslash⟩ := not_or.mp h
        simp [behind, marks, next, hquote, hslash]
    rw [List.flatMap_cons, behind_append, marks_append, hescape.1]
    refine ⟨ih.1, ?_⟩
    intro mark hmark
    rw [List.mem_append] at hmark
    exact hmark.elim (hescape.2 mark) (ih.2 mark)

end Quoting

/-- **No comma separates inside of a quoted string.** -/
theorem closed_quoted (s : List Char) : Closed (quoted s) := by
  obtain ⟨hbehind, hmarks⟩ := Quoting.inside_escaped s
  refine ⟨?_, ?_⟩
  · show Quoting.inside.behind (s.flatMap escape ++ ['"']) = _
    rw [Quoting.behind_append, hbehind]
    rfl
  · intro mark hmark
    have hmark : mark ∈ ('"', Quoting.outside)
        :: Quoting.inside.marks (s.flatMap escape ++ ['"']) := hmark
    rw [Quoting.marks_append, hbehind, List.mem_cons, List.mem_append] at hmark
    rcases hmark with rfl | hmark | hmark
    · decide
    · simp [separates, hmarks mark hmark]
    · rw [List.mem_singleton.mp hmark]
      decide

theorem closed_of_isToken {s : String} (hs : isToken s = true) : Closed s.toList :=
  Closed.of_forall fun _ hc =>
    have hplain := isPlain_of_mem_token hs hc
    ⟨hplain.notComma, hplain.notQuote⟩

namespace IsArgument

variable {argument : String}

theorem closed (h : IsArgument argument) : Closed argument.toList := by
  rcases h with h | ⟨s, h⟩
  · exact closed_of_isToken h
  · exact h ▸ closed_quoted s

/-- The last character of an argument is the last of a token, or a quote. -/
theorem exists_getLast? (h : IsArgument argument) :
    ∃ c, argument.toList.getLast? = some c ∧ isBlank c = false := by
  rcases h with h | ⟨s, h⟩
  · have hne := (isToken_iff.mp h).1
    exact ⟨_, List.getLast?_eq_some_getLast hne,
      (isPlain_of_mem_token h (List.getLast_mem hne)).notBlank⟩
  · refine ⟨'"', ?_, rfl⟩
    rw [h, quoted, ← List.cons_append, List.getLast?_concat]

end IsArgument

/-! ## What was written is read back -/

namespace Directive

variable {d : Directive}

/-- Behind an equals sign is the rest of what is written. -/
theorem toList_written_of_some {argument : String} (h : d.argument = some argument) :
    d.written.toList = d.name.toList ++ '=' :: argument.toList := by
  unfold written
  rw [h, String.toList_append, String.toList_append, List.append_assoc]
  rfl

theorem written_of_none (h : d.argument = none) : d.written = d.name := by
  unfold written
  rw [h]

/-- What is written for a directive is a member by itself. -/
theorem Writable.closed (hd : d.Writable) : Closed d.written.toList := by
  cases harg : d.argument with
  | none =>
    rw [written_of_none harg]
    exact closed_of_isToken hd.name
  | some argument =>
    rw [toList_written_of_some harg]
    have hequals : Closed ['='] := Closed.of_forall (by simp)
    exact (closed_of_isToken hd.name).append
      (hequals.append (hd.argument argument harg).closed)

/-- It begins and ends without blanks. -/
theorem Writable.trim_written (hd : d.Writable) : trim d.written = d.written := by
  cases harg : d.argument with
  | none => rw [written_of_none harg, trim_of_isToken hd.name]
  | some argument =>
    unfold trim
    rw [trimChars_of_ends, String.ofList_toList]
    · intro c hc
      rw [toList_written_of_some harg,
        List.head?_append_of_ne_nil _ (isToken_iff.mp hd.name).1] at hc
      exact (isPlain_of_mem_token hd.name (List.mem_of_head? hc)).notBlank
    · intro c hc
      obtain ⟨last, hlast, hblank⟩ := (hd.argument argument harg).exists_getLast?
      rw [toList_written_of_some harg, List.append_cons, List.getLast?_append, hlast] at hc
      exact Option.some.inj hc ▸ hblank

/-- **What is written for a directive is read as the directive.** -/
theorem Writable.ofMember_written (hd : d.Writable) : ofMember d.written = d := by
  have hequals : ∀ c ∈ d.name.toList, (c == '=') = false := fun c hc =>
    beq_eq_false_iff_ne.mpr (isPlain_of_mem_token hd.name hc).notEquals
  unfold ofMember
  rw [hd.trim_written]
  obtain ⟨name, argument⟩ := d
  cases argument with
  | none =>
    rw [written_of_none rfl, cutAt?_of_forall hequals]
    show Directive.mk (Text.lower name) none = _
    rw [hd.lower]
  | some argument =>
    rw [toList_written_of_some rfl, cutAt?_append_cons hequals rfl]
    show Directive.mk (Text.lower (trim (String.ofList name.toList)))
      (some (String.ofList argument.toList)) = _
    rw [String.ofList_toList, String.ofList_toList, trim_of_isToken hd.name, hd.lower]

end Directive

/-- A closed text in front of a comma is the first member. -/
theorem members_append_comma {s : String} (hs : Closed s.toList) (t : String) :
    members (s ++ "," ++ t) = s :: members t := by
  have hmarks : Quoting.outside.marks (s ++ "," ++ t).toList
      = Quoting.outside.marks s.toList
        ++ (',', Quoting.outside) :: Quoting.outside.marks t.toList := by
    rw [String.toList_append, String.toList_append, List.append_assoc, Quoting.marks_append,
      hs.behind]
    rfl
  unfold members
  rw [hmarks, splitAt_append_cons hs.marks rfl, List.map_cons, Quoting.map_fst_marks,
    String.ofList_toList]

theorem members_of_closed {s : String} (hs : Closed s.toList) : members s = [s] := by
  unfold members
  rw [splitAt_of_forall hs.marks, List.map_singleton, Quoting.map_fst_marks,
    String.ofList_toList]

/-- **What was written is read back**, in front of any other values. -/
theorem directives_cons_written {d : Directive} (hd : d.Writable) (values : List String) :
    directives (d.written :: values) = d :: directives values := by
  have hname : d.name ≠ "" := by
    intro hempty
    exact (isToken_iff.mp hd.name).1 (by rw [hempty]; rfl)
  have hread (ms : List String) :
      ((d.written :: ms).map Directive.ofMember).filter (·.name ≠ "")
        = d :: (ms.map Directive.ofMember).filter (·.name ≠ "") := by
    rw [List.map_cons, hd.ofMember_written]
    exact List.filter_cons_of_pos (decide_eq_true hname)
  cases values with
  | nil =>
    show ((members d.written).map Directive.ofMember).filter (·.name ≠ "") = _
    rw [members_of_closed hd.closed, hread]
    rfl
  | cons value values =>
    show ((members (d.written ++ "," ++ join "," (value :: values))).map
      Directive.ofMember).filter (·.name ≠ "") = _
    rw [members_append_comma hd.closed, hread]
    rfl

end Gatehouse.Cache
