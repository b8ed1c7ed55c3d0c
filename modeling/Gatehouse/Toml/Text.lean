import Gatehouse.Text.Ascii
import Gatehouse.Toml.Value

/-!
# Strings of a document

There are four kinds of strings: with or without escapes, and on one line
or on several. In strings on several lines a line break right after the
opening quotes is dropped, every line break counts as one character, and up
to two quotes may stand before the closing ones.
-/

namespace Gatehouse.Toml

open Gatehouse.Text

/-- Whether a character may stand in a string or a comment: anything but a
control, the tab excepted. -/
def isPrintable (c : Char) : Bool :=
  c.toNat == 9 || (32 ≤ c.toNat && c.toNat != 127)

/-- Whether a character is a space or a tab. -/
def isSpace (c : Char) : Bool := c == ' ' || c == '\t'

/-- The text behind a line break, if it begins with one. -/
def afterBreak? : List Char → Option (List Char)
  | '\n' :: rest => some rest
  | '\r' :: '\n' :: rest => some rest
  | _ => none

theorem length_afterBreak? {s r : List Char} (h : afterBreak? s = some r) :
    r.length < s.length := by
  unfold afterBreak? at h
  split at h
  · cases h; simp
  · cases h; simp only [List.length_cons]; omega
  · cases h

/-! ## Escapes -/

/-- The character with a number written in hexadecimal. -/
def numbered? (digits : List Char) : Option Char := do
  guard (digits.all isHex)
  let n := digits.foldl (fun acc c => acc * 16 + (hexValue? c).getD 0) 0
  guard (decide n.isValidChar)
  return Char.ofNat n

/-- The characters with short escapes. -/
def shortEscapes : List (Char × Char) :=
  [('b', '\x08'), ('t', '\t'), ('n', '\n'), ('f', '\x0c'), ('r', '\r'),
    ('"', '"'), ('\\', '\\')]

/-- Takes a number of characters. -/
def takeExactly (n : Nat) (s : List Char) : Option (List Char × List Char) :=
  if n ≤ s.length then some (s.take n, s.drop n) else none

theorem length_takeExactly {n : Nat} {s a b : List Char}
    (h : takeExactly n s = some (a, b)) : b.length ≤ s.length := by
  unfold takeExactly at h
  by_cases hn : n ≤ s.length
  · rw [if_pos hn] at h
    cases h
    simp
  · rw [if_neg hn] at h
    cases h

/-- The character that an escape stands for, read behind its backslash. -/
def escape? (s : List Char) : Option (Char × List Char) :=
  match s with
  | [] => none
  | c :: rest =>
    match shortEscapes.find? (·.1 == c) with
    | some (_, x) => some (x, rest)
    | none =>
      if c == 'u' || c == 'U' then
        match takeExactly (if c == 'u' then 4 else 8) rest with
        | none => none
        | some (digits, after) => (numbered? digits).map fun x => (x, after)
      else none

theorem length_escape? {s r : List Char} {c : Char} (h : escape? s = some (c, r)) :
    r.length < s.length := by
  unfold escape? at h
  split at h
  · cases h
  · split at h
    · cases h; simp
    · split at h
      · split at h
        · cases h
        · next ht =>
          obtain ⟨x, _, hx⟩ := Option.map_eq_some_iff.1 h
          cases hx
          exact Nat.lt_succ_of_le (length_takeExactly ht)
      · cases h

/-! ## Strings on one line -/

/-- The rest of a string with escapes, up to its closing quote. -/
def basicBody (s : List Char) : Option (List Char × List Char) :=
  match s with
  | [] => none
  | '"' :: rest => some ([], rest)
  | '\\' :: rest =>
    match h : escape? rest with
    | none => none
    | some (c, rest') =>
      have := length_escape? h
      (basicBody rest').map fun (t, after) => (c :: t, after)
  | c :: rest =>
    if isPrintable c then
      (basicBody rest).map fun (t, after) => (c :: t, after)
    else none
termination_by s.length
decreasing_by all_goals (simp only [List.length_cons]; omega)

/-- The rest of a string without escapes, up to its closing quote. -/
def literalBody : List Char → Option (List Char × List Char)
  | [] => none
  | c :: rest =>
    if c == '\'' then some ([], rest)
    else if isPrintable c then
      (literalBody rest).map fun (t, after) => (c :: t, after)
    else none

/-! ## Strings on several lines -/

/-- The content and the rest where three or more quotes close a string:
up to two of them belong to it. -/
def closing? (quote : Char) (s : List Char) : Option (List Char × List Char) :=
  let run := (s.takeWhile (· == quote)).length
  if run < 3 then none
  else
    let kept := min (run - 3) 2
    some (List.replicate kept quote, s.drop (kept + 3))

/-- The rest of a string without escapes on several lines. -/
def literalLines (s : List Char) : Option (List Char × List Char) :=
  match closing? '\'' s with
  | some r => some r
  | none =>
    match h : afterBreak? s with
    | some rest =>
      have := length_afterBreak? h
      (literalLines rest).map fun (t, after) => ('\n' :: t, after)
    | none =>
      match s with
      | [] => none
      | c :: rest =>
        if isPrintable c then
          (literalLines rest).map fun (t, after) => (c :: t, after)
        else none
termination_by s.length

/-- The next unit of a string with escapes on several lines: what it stands
for, whether blanks are skipped from then on, and what follows it. Blanks
and line breaks are skipped after a backslash at the end of a line. -/
def unit? (skipping : Bool) (s : List Char) :
    Option (List Char × Bool × List Char) :=
  match afterBreak? s with
  | some rest => some (if skipping then [] else ['\n'], skipping, rest)
  | none =>
    match s with
    | [] => none
    | '\\' :: rest =>
      if (afterBreak? (rest.dropWhile isSpace)).isSome then some ([], true, rest)
      else (escape? rest).map fun (c, after) => ([c], false, after)
    | c :: rest =>
      if skipping && isSpace c then some ([], true, rest)
      else if isPrintable c then some ([c], false, rest)
      else none

theorem length_unit? {skipping later : Bool} {s out r : List Char}
    (h : unit? skipping s = some (out, later, r)) : r.length < s.length := by
  unfold unit? at h
  split at h
  · next hb =>
    cases h
    exact length_afterBreak? hb
  · split at h
    · cases h
    · split at h
      · cases h
        exact Nat.lt_succ_self _
      · obtain ⟨⟨c, after⟩, he, hx⟩ := Option.map_eq_some_iff.1 h
        cases hx
        exact Nat.lt_succ_of_lt (length_escape? he)
    · split at h
      · cases h
        exact Nat.lt_succ_self _
      · split at h
        · cases h
          exact Nat.lt_succ_self _
        · cases h

/-- The rest of a string with escapes on several lines. -/
def basicLines (skipping : Bool) (s : List Char) :
    Option (List Char × List Char) :=
  match closing? '"' s with
  | some r => some r
  | none =>
    match h : unit? skipping s with
    | none => none
    | some (out, later, rest) =>
      have := length_unit? h
      (basicLines later rest).map fun (t, after) => (out ++ t, after)
termination_by s.length

/-- The text behind a line break, or the whole text. -/
def dropBreak (s : List Char) : List Char := (afterBreak? s).getD s

/-- **A string of any kind.** -/
def string : Reader String := fun s =>
  let result := match s with
    | '"' :: '"' :: '"' :: rest => basicLines false (dropBreak rest)
    | '\'' :: '\'' :: '\'' :: rest => literalLines (dropBreak rest)
    | '"' :: rest => basicBody rest
    | '\'' :: rest => literalBody rest
    | _ => none
  result.map fun (t, after) => (String.ofList t, after)

end Gatehouse.Toml
