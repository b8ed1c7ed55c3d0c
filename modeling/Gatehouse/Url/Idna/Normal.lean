import Gatehouse.Url.Idna.Properties
import Gatehouse.Url.Idna.Rows

/-!
# Composed characters

Text can write an accented character as one character or as a base and its
marks. Host names use the composed form: characters are taken apart, the
marks after each base are put in the order of their classes, and what can be
composed is composed again. The syllables of Hangul follow a rule of their
own instead of the table.
-/

namespace Gatehouse.Url.Idna

/-- The table of combining classes. -/
def combiningTable : Array Row := rows combiningRows

/-- The table of primary composites. -/
def compositeTable : Array Row := rows compositeRows

/-- The canonical combining class of a character. -/
def combiningClass (c : Char) : Nat :=
  match row? combiningTable c with
  | some r => r.codes.headD 0
  | none => 0

/-! ## Hangul -/

/-- The parts of a Hangul syllable. -/
def hangulParts? (c : Char) : Option (List Char) :=
  let n := c.toNat
  if 0xAC00 ≤ n && n < 0xD7A4 then
    let s := n - 0xAC00
    let lead := Char.ofNat (0x1100 + s / 588)
    let vowel := Char.ofNat (0x1161 + s % 588 / 28)
    if s % 28 = 0 then some [lead, vowel]
    else some [lead, vowel, Char.ofNat (0x11A7 + s % 28)]
  else none

/-- The syllable that two parts of Hangul compose to. -/
def hangulPair? (a b : Char) : Option Char :=
  let m := a.toNat
  let n := b.toNat
  if 0x1100 ≤ m && m < 0x1113 && 0x1161 ≤ n && n < 0x1176 then
    some (Char.ofNat (0xAC00 + ((m - 0x1100) * 21 + (n - 0x1161)) * 28))
  else if 0xAC00 ≤ m && m < 0xD7A4 && (m - 0xAC00) % 28 = 0
      && 0x11A7 < n && n < 0x11C3 then
    some (Char.ofNat (m + (n - 0x11A7)))
  else none

/-! ## Taking apart -/

/-- The two characters that compose to a character. -/
def parts? (c : Char) : Option (Char × Char) :=
  match row? compositeTable c with
  | some ⟨_, 'C', [a, b]⟩ => some (Char.ofNat a, Char.ofNat b)
  | _ => none

/-- A character taken apart, to the given depth; no composite is nested
deeper than four times. -/
def decomposeTo (c : Char) : (depth : Nat) → List Char
  | 0 => [c]
  | depth + 1 =>
    match parts? c with
    | some (a, b) => decomposeTo a depth ++ [b]
    | none => (hangulParts? c).getD [c]

/-- Puts a mark among the marks after a base, behind those of its class. -/
def insertMark (c : Char) : List Char → List Char
  | [] => [c]
  | d :: ds =>
    if combiningClass c < combiningClass d then c :: d :: ds
    else d :: insertMark c ds

/-- The characters with the marks after each base in the order of their
classes. -/
def orderMarks : (marks : List Char) → List Char → List Char
  | marks, [] => marks
  | marks, c :: cs =>
    if combiningClass c = 0 then marks ++ c :: orderMarks [] cs
    else orderMarks (insertMark c marks) cs

/-! ## Composing -/

/-- All composites with their parts. -/
def pairs : List (Nat × Nat × Nat) :=
  compositeTable.toList.filterMap fun r =>
    match r.codes with
    | [a, b] => some (a, b, r.first)
    | _ => none

/-- The character that two characters compose to. -/
def pair? (a b : Char) : Option Char :=
  match hangulPair? a b with
  | some c => some c
  | none =>
    (pairs.find? fun p => p.1 = a.toNat && p.2.1 = b.toNat).map fun p =>
      Char.ofNat p.2.2

/-- Composes what follows a base. `marks` are the marks in between that did
not compose, the last one first; they block marks of their own class or a
lower one. -/
def composeFrom (base : Char) (marks : List Char) : List Char → List Char
  | [] => base :: marks.reverse
  | c :: cs =>
    let k := combiningClass c
    let free := match marks with
      | [] => true
      | m :: _ => combiningClass m < k
    match if free then pair? base c else none with
    | some p => composeFrom p marks cs
    | none =>
      if k = 0 then base :: (marks.reverse ++ composeFrom c [] cs)
      else composeFrom base (c :: marks) cs

/-- Composes a text, from its first base on. -/
def composeAll : List Char → List Char
  | [] => []
  | c :: cs =>
    if combiningClass c = 0 then composeFrom c [] cs else c :: composeAll cs

/-- **The composed form of a text.** -/
def normal (s : List Char) : List Char :=
  composeAll (orderMarks [] (s.flatMap fun c => decomposeTo c 4))

end Gatehouse.Url.Idna
