import Mathlib
import Gatehouse.Proofs.Cache.Restriction

/-!
# What a response has to say to be stored

The rule of the cache goes through the `Cache-Control` values line by line and
word by word, keeps two numbers that later words replace, and gives up as soon
as something speaks against storing. Nothing of this order is left in what it
decides. All that it makes of the lines is one list of words
(`cacheControl?`), and of that list it asks whether some words are in it and
what the last numbers are (`Storable`).

The numbers are where the order of the words stays: a later `s-maxage` takes
the place of an earlier one, also where it cannot be read. So lists of words
are alike to the rule if the same known words are in them, and if the words
with numbers are the same in the same order (`Alike`).
-/

namespace Gatehouse.Cache

open Http Text

/-! ## Words -/

/-- **The words of `Cache-Control`**, trimmed and in lower case: what lies
between the commas of all its values, if every value is text. -/
def cacheControl? (a : Response) : Option (List String) :=
  ((a.headers.values "cache-control").mapM Bytes.text?).map (·.flatMap Directives.pieces)

/-- What stands behind a lead, for every word that begins with it. -/
def behind (lead : String) (words : List String) : List (List Char) :=
  words.filterMap fun word => afterLead? lead.toList word.toList

/-- **The number of the last word with a lead**, if there is such a word and
its number can be read. -/
def lastNumber? (lead : String) (words : List String) : Option Nat :=
  (behind lead words).getLast?.bind (Decimal.unsigned? Decimal.max64)

/-- The age that words allow: what they say to shared caches, or else what
they say to all. -/
def age? (words : List String) : Option Nat :=
  (lastNumber? "s-maxage=" words).or (lastNumber? "max-age=" words)

/-- **The length that a response announces**: the first `Content-Length` is text
and a number. -/
def Announces (a : Response) (n : Nat) : Prop :=
  ∃ value rest text, a.headers.values "content-length" = value :: rest
    ∧ value.text? = some text ∧ Decimal.unsigned? Decimal.max64 text.toList = some n

/-- **A response of some length**: it announces the length, or it announces none
and its body is known to have it. -/
def HasLength (a : Response) (n : Nat) : Prop :=
  Announces a n
    ∨ (∀ m, ¬ Announces a m) ∧ a.body.sized = true ∧ a.body.data.length = n

/-- **A response that may be stored** for some seconds, where `words` are
those of its `Cache-Control`. -/
structure Storable (a : Response) (limit : Nat) (words : List String)
    (seconds : Nat) : Prop where
  ok : a.status = Status.ok
  cookieless : a.headers.values "set-cookie" = []
  reusable : ∀ value ∈ a.headers.values "vary",
    ∃ text, value.text? = some text ∧ trim text ≠ "*"
  short : ∃ n, HasLength a n ∧ n ≤ limit
  isPublic : "public" ∈ words
  unrestricted : ∀ word ∈ restrictions, word ∉ words
  age : age? words = some seconds
  positive : 0 < seconds

/-- **Words that say the same to the rule**: the known ones without a number
are the same ones, wherever they stand, and those with a number are the same
in the same order. -/
structure Alike (words words' : List String) : Prop where
  known : ∀ word ∈ "public" :: restrictions, (word ∈ words' ↔ word ∈ words)
  numbers : ∀ lead ∈ ["s-maxage=", "max-age="], behind lead words' = behind lead words

/-- Two responses that differ in their `Cache-Control` at most. -/
structure SameElsewhere (a b : Response) : Prop where
  status : b.status = a.status
  headers : ∀ name ≠ "cache-control", b.headers.values name = a.headers.values name
  body : b.body = a.body

/-! ## The numbers that are kept -/

namespace Directives

/-- No word begins with both leads. -/
theorem afterLead?_maxAge_of_shared {s rest : List Char}
    (h : afterLead? "s-maxage=".toList s = some rest) :
    afterLead? "max-age=".toList s = none := by
  cases s with
  | nil => exact absurd h nofun
  | cons c s =>
    by_cases hc : c = 's'
    · rw [hc]; rfl
    · have hnone : afterLead? "s-maxage=".toList (c :: s) = none :=
        if_neg fun heq => hc (beq_iff_eq.mp heq).symm
      rw [hnone] at h
      cases h

/-- **What a word does to the numbers**: it replaces the one whose lead it has. -/
theorem numbers_add (d : Directives) (word : String) :
    (d.add word).sharedMaxAge
        = ((afterLead? "s-maxage=".toList word.toList).map
            (Decimal.unsigned? Decimal.max64)).getD d.sharedMaxAge
      ∧ (d.add word).maxAge
        = ((afterLead? "max-age=".toList word.toList).map
            (Decimal.unsigned? Decimal.max64)).getD d.maxAge := by
  unfold add
  split
  · next h => rw [h]; exact ⟨rfl, rfl⟩
  · split
    · next h =>
      simp only [Bool.or_eq_true, decide_eq_true_eq] at h
      rcases h with (h | h) | h <;> rw [h] <;> exact ⟨rfl, rfl⟩
    · split
      · next h => rw [h, afterLead?_maxAge_of_shared h]; exact ⟨rfl, rfl⟩
      · next h =>
        rw [h]
        split
        · next h' => rw [h']; exact ⟨rfl, rfl⟩
        · next h' => rw [h']; exact ⟨rfl, rfl⟩

/-- **The number that a list of words leaves** is that of the last word with
the lead, where every single word replaces the number if it has the lead. -/
theorem number_foldl {lead : String} {number : Directives → Option Nat}
    (hadd : ∀ d word, number (add d word)
      = ((afterLead? lead.toList word.toList).map (Decimal.unsigned? Decimal.max64)).getD
          (number d))
    (d : Directives) (words : List String) :
    number (words.foldl add d)
      = ((behind lead words).getLast?.map (Decimal.unsigned? Decimal.max64)).getD
          (number d) := by
  -- the last word is the one that counts, so the list is taken apart there
  induction words using List.reverseRecOn with
  | nil => rfl
  | append_singleton words word ih =>
    rw [List.foldl_append, List.foldl_cons, List.foldl_nil, hadd, ih]
    unfold behind
    rw [List.filterMap_append, List.getLast?_append, List.filterMap_cons, List.filterMap_nil]
    cases afterLead? lead.toList word.toList <;> rfl

/-- **The age that header values allow** is that of their words. -/
theorem age_ofValues (values : List String) :
    (ofValues values).sharedMaxAge.or (ofValues values).maxAge
      = age? (values.flatMap pieces) := by
  have hnumber (texts : List (List Char)) :
      (texts.getLast?.map (Decimal.unsigned? Decimal.max64)).getD none
        = texts.getLast?.bind (Decimal.unsigned? Decimal.max64) := by
    cases texts.getLast? <;> rfl
  unfold ofValues age? lastNumber?
  rw [number_foldl fun d word => (numbers_add d word).1,
    number_foldl fun d word => (numbers_add d word).2]
  unfold empty
  rw [hnumber, hnumber]

end Directives

/-! ## Lengths -/

theorem announces_iff {a : Response} {n : Nat} :
    Announces a n ↔ (a.headers.text? "content-length").bind
      (fun t => Decimal.unsigned? Decimal.max64 t.toList) = some n := by
  unfold Announces Headers.text? Headers.get?
  cases a.headers.values "content-length" with
  | nil => simp
  | cons value rest => simp [Option.bind_eq_some_iff]

/-- **The length that the rule goes by** is that of the response. -/
theorem announcedLength?_eq_some_iff {a : Response} {n : Nat} :
    announcedLength? a = some n ↔ HasLength a n := by
  unfold announcedLength? HasLength
  cases hannounced : (a.headers.text? "content-length").bind
      (fun t => Decimal.unsigned? Decimal.max64 t.toList) with
  | some m => simp [announces_iff, hannounced]
  | none => simp [announces_iff, hannounced, Body.exactSize?]

/-! ## The rule in terms of words -/

/-- **When a response has a lifetime.** -/
theorem lifetime?_eq_some_iff_storable {a : Response} {limit seconds : Nat} :
    lifetime? a limit = some seconds
      ↔ ∃ words, cacheControl? a = some words ∧ Storable a limit words seconds := by
  have hcookies : a.headers.contains "set-cookie" = false
      ↔ a.headers.values "set-cookie" = [] := by
    rw [← Bool.not_eq_true, Headers.contains_eq_true_iff, not_not]
  have hvary : (a.headers.values "vary").all isReusableVary = true
      ↔ ∀ value ∈ a.headers.values "vary",
        ∃ text, value.text? = some text ∧ trim text ≠ "*" := by
    rw [List.all_eq_true]
    refine forall₂_congr fun value _ => ?_
    unfold isReusableVary
    cases value.text? <;> simp
  have hpublic (values : List String) : (Directives.ofValues values).isPublic = true
      ↔ "public" ∈ values.flatMap Directives.pieces := by
    unfold Directives.ofValues
    rw [Directives.isPublic_foldl]
    simp [Directives.empty]
  have hrestricted (values : List String) :
      (Directives.ofValues values).isRestricted = false
        ↔ ∀ word ∈ restrictions, word ∉ values.flatMap Directives.pieces := by
    unfold Directives.ofValues
    rw [← Bool.not_eq_true, Directives.isRestricted_foldl]
    simp [Directives.empty]
  rw [lifetime?_eq_some_iff, hcookies, hvary]
  unfold cacheControl?
  constructor
  · rintro ⟨hok, hcookieless, hreusable, n, hn, hlimit, values, hvalues, hlife⟩
    obtain ⟨hpub, hres, hage, hpositive⟩ := Directives.lifetime?_eq_some_iff.mp hlife
    refine ⟨values.flatMap Directives.pieces, by rw [hvalues]; rfl, ?_⟩
    exact ⟨hok, hcookieless, hreusable,
      ⟨n, announcedLength?_eq_some_iff.mp hn, hlimit⟩, (hpublic values).mp hpub,
      (hrestricted values).mp hres, by rw [← Directives.age_ofValues, hage], hpositive⟩
  · rintro ⟨words, hwords, hstorable⟩
    obtain ⟨values, hvalues, rfl⟩ := Option.map_eq_some_iff.mp hwords
    obtain ⟨n, hn, hlimit⟩ := hstorable.short
    refine ⟨hstorable.ok, hstorable.cookieless, hstorable.reusable, n,
      announcedLength?_eq_some_iff.mpr hn, hlimit, values, hvalues,
      Directives.lifetime?_eq_some_iff.mpr ⟨?_, ?_, ?_, hstorable.positive⟩⟩
    · exact (hpublic values).mpr hstorable.isPublic
    · exact (hrestricted values).mpr hstorable.unrestricted
    · rw [Directives.age_ofValues, hstorable.age]

theorem Alike.symm {words words' : List String} (h : Alike words words') :
    Alike words' words :=
  ⟨fun word hword => (h.known word hword).symm, fun lead hlead => (h.numbers lead hlead).symm⟩

/-- **A known word may stand anywhere** among the others. -/
theorem Alike.of_middle {word : String} (hword : word ∈ "public" :: restrictions)
    (before after : List String) :
    Alike (before ++ word :: after) (word :: (before ++ after)) where
  known := fun other _ => by
    simp only [List.mem_cons, List.mem_append]
    tauto
  numbers := fun lead hlead => by
    have hnone : afterLead? lead.toList word.toList = none := by
      simp only [restrictions, List.mem_cons, List.not_mem_nil, or_false] at hword hlead
      rcases hword with rfl | rfl | rfl | rfl <;> rcases hlead with rfl | rfl <;> rfl
    unfold behind
    rw [List.filterMap_cons, hnone, List.filterMap_append, List.filterMap_append,
      List.filterMap_cons, hnone]

theorem SameElsewhere.symm {a b : Response} (h : SameElsewhere a b) : SameElsewhere b a :=
  ⟨h.status.symm, fun name hname => (h.headers name hname).symm, h.body.symm⟩

/-- Words that are alike allow the same age. -/
theorem Alike.age?_eq {words words' : List String} (h : Alike words words') :
    age? words' = age? words := by
  unfold age? lastNumber?
  rw [h.numbers "s-maxage=" (by simp), h.numbers "max-age=" (by simp)]

/-- The length does not depend on `Cache-Control`. -/
theorem SameElsewhere.hasLength_iff {a b : Response} (h : SameElsewhere a b) {n : Nat} :
    HasLength b n ↔ HasLength a n := by
  unfold HasLength Announces
  rw [h.headers "content-length" (by decide), h.body]

/-- A response may be stored as another one may that differs from it in
`Cache-Control` only, and there in nothing that the rule hears. -/
theorem Storable.congr {a b : Response} {limit seconds : Nat} {words words' : List String}
    (h : Storable a limit words seconds) (hab : SameElsewhere a b)
    (halike : Alike words words') : Storable b limit words' seconds where
  ok := hab.status.trans h.ok
  cookieless := (hab.headers _ (by decide)).trans h.cookieless
  reusable := by
    rw [hab.headers "vary" (by decide)]
    exact h.reusable
  short := by
    obtain ⟨n, hn, hlimit⟩ := h.short
    exact ⟨n, hab.hasLength_iff.mpr hn, hlimit⟩
  isPublic := (halike.known _ List.mem_cons_self).mpr h.isPublic
  unrestricted := fun word hword hmem =>
    h.unrestricted word hword ((halike.known word (List.mem_cons_of_mem _ hword)).mp hmem)
  age := halike.age?_eq.trans h.age
  positive := h.positive

/-- The lifetime of responses that say the same to the rule. -/
theorem lifetime?_congr {a b : Response} {words words' : List String} (limit : Nat)
    (hab : SameElsewhere a b) (hwords : cacheControl? a = some words)
    (hwords' : cacheControl? b = some words') (halike : Alike words words') :
    lifetime? b limit = lifetime? a limit := by
  refine Option.ext fun seconds => ?_
  rw [lifetime?_eq_some_iff_storable, lifetime?_eq_some_iff_storable, hwords, hwords']
  simp only [Option.some.injEq, exists_eq_left']
  exact ⟨fun h => h.congr hab.symm halike.symm, fun h => h.congr hab halike⟩

/-! ## Words as they are written -/

/-- The words of lines that are written with commas, wherever the lines
end. -/
theorem flatMap_pieces_join {lines : List (List String)}
    (h : ∀ line ∈ lines, line ≠ [] ∧ ∀ word ∈ line, ',' ∉ word.toList) :
    (lines.map (join ",")).flatMap Directives.pieces
      = lines.flatten.map fun word => lower (trim word) := by
  induction lines with
  | nil => rfl
  | cons line lines ih =>
    obtain ⟨hne, hcommas⟩ := h line List.mem_cons_self
    have hline : line.flatMap Directives.pieces = line.map fun word => lower (trim word) := by
      rw [List.map_eq_flatMap]
      exact List.flatMap_congr fun word hword =>
        Directives.pieces_of_not_mem (hcommas word hword)
    rw [List.map_cons, List.flatMap_cons, Directives.pieces_join hne, hline,
      ih fun line hline => h line (List.mem_cons_of_mem _ hline), List.flatten_cons,
      List.map_append]

/-- **What the rule decides, and what it decides on.** A response may be stored
for some seconds exactly if its `Cache-Control` values are text and it is
`Storable` with their words. So nothing of these values counts but their
words, and of the words only what is alike: two responses that differ in
`Cache-Control` alone, with words that are alike, have the same lifetime. And
the words are the same on whatever lines they are written, in whatever case and
with whatever blanks around them. -/
theorem lifetime?_eq_some_iff_words (a : Response) (limit : Nat) :
    (∀ seconds, lifetime? a limit = some seconds
      ↔ ∃ words, cacheControl? a = some words ∧ Storable a limit words seconds)
    ∧ (∀ b words words', SameElsewhere a b → cacheControl? a = some words →
      cacheControl? b = some words' → Alike words words' →
      lifetime? b limit = lifetime? a limit)
    ∧ ∀ lines : List (List String),
      (∀ line ∈ lines, line ≠ [] ∧ ∀ word ∈ line, ',' ∉ word.toList) →
      (a.headers.values "cache-control").mapM Bytes.text? = some (lines.map (join ",")) →
      cacheControl? a = some (lines.flatten.map fun word => lower (trim word)) := by
  refine ⟨fun seconds => lifetime?_eq_some_iff_storable, ?_, fun lines hlines hvalues => ?_⟩
  · intro b words words' hab hwords hwords' halike
    exact lifetime?_congr limit hab hwords hwords' halike
  · unfold cacheControl?
    rw [hvalues, Option.map_some, flatMap_pieces_join hlines]

/-- A page with `Cache-Control` lines, that comes piece by piece and announces
its length. -/
def pageWithLines (lines : List (List String)) : Response :=
  ⟨Status.ok, ⟨⟨"content-length", Bytes.ofString "1"⟩
    :: lines.map fun line => ⟨"cache-control", Bytes.ofString (join "," line)⟩⟩,
    ⟨Bytes.ofString "x", false, true, []⟩⟩

/-- Words in two lines, in any case and with blanks, and the same words in one
line with `public` behind them. -/
theorem lifetime?_pageWithLines :
    let spread := [[" Public", "\tMAX-AGE=5 "], ["s-maxage=60", "x"]]
    let joined := [["max-age=5", "s-maxage=60", "x", "public"]]
    cacheControl? (pageWithLines spread) = some ["public", "max-age=5", "s-maxage=60", "x"]
      ∧ lifetime? (pageWithLines spread) 100 = some 60
      ∧ lifetime? (pageWithLines joined) 100 = some 60 := by
  intro spread joined
  obtain ⟨hiff, halike, hwritten⟩ := lifetime?_eq_some_iff_words (pageWithLines spread) 100
  have hspread := hwritten spread (by decide) (by decide +kernel)
  have hjoined : cacheControl? (pageWithLines joined)
      = some (["max-age=5", "s-maxage=60", "x"] ++ "public" :: []) := by decide +kernel
  have hsame : SameElsewhere (pageWithLines spread) (pageWithLines joined) := by
    refine ⟨rfl, fun name hname => ?_, rfl⟩
    simp [pageWithLines, Headers.values, spread, joined, hname.symm, List.filter_cons]
  have hvary : (pageWithLines spread).headers.values "vary" = [] := by decide +kernel
  have hlength : HasLength (pageWithLines spread) 1 :=
    Or.inl ⟨_, _, "1", rfl, by decide +kernel, by decide +kernel⟩
  have hlife : lifetime? (pageWithLines spread) 100 = some 60 :=
    (hiff 60).mpr ⟨_, hspread, rfl, rfl, by simp [hvary], ⟨1, hlength, by decide⟩,
      by decide +kernel, by decide +kernel, by decide +kernel, by decide⟩
  refine ⟨hspread.trans (by decide +kernel), hlife, ?_⟩
  rw [halike _ _ _ hsame hspread hjoined, hlife]
  have hknown : "public" ∈ "public" :: restrictions := List.mem_cons_self
  exact (Alike.of_middle hknown ["max-age=5", "s-maxage=60", "x"] []).symm

end Gatehouse.Cache
