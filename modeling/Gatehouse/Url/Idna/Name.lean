import Gatehouse.Text.Ascii
import Gatehouse.Url.Idna.Mapping
import Gatehouse.Url.Idna.Normal
import Gatehouse.Url.Punycode

/-!
# Host names in ASCII

A host name may be written with characters of any script. Its form in ASCII
is found by mapping the characters, composing them, and encoding each label
that is still not ASCII. Labels have to obey rules that keep them readable:
none begins with a mark, joiners stand only where they show, and text from
right to left is not mixed with other text.

A name that is ASCII throughout and has no encoded label needs none of the
tables; only its case changes.
-/

namespace Gatehouse.Url.Idna

open Text

def mappingTable : Array Row := rows mappingRows
def markTable : Array Row := rows markRows
def bidiTable : Array Row := rows bidiRows
def joiningTable : Array Row := rows joiningRows

/-! ## Characters -/

/-- The ASCII characters that no host name may contain: controls, the space,
and the signs that have a meaning in URLs. -/
def isForbidden (c : Char) : Bool :=
  c.toNat ≤ 32 || c.toNat == 127 || "%#/:<>?@[\\]^|".toList.contains c

/-- What a character is mapped to, unless it is not allowed. -/
def mapChar? (c : Char) : Option (List Char) :=
  match row? mappingTable c with
  | some ⟨_, 'V', _⟩ => some [c]
  | some ⟨_, 'M', codes⟩ => some (codes.map Char.ofNat)
  | some ⟨_, 'I', _⟩ => some []
  | _ => none

/-- Whether a character stays as it is. -/
def isValid (c : Char) : Bool := kindOf mappingTable c == 'V'

/-! ## Labels -/

/-- The mark of an encoded label. -/
def encodedLead : List Char := "xn--".toList

/-- The class of a character in text of mixed direction. -/
def direction (c : Char) : Char := kindOf bidiTable c

/-- Whether a character runs from right to left. -/
def isRightToLeft (c : Char) : Bool := "RAN".toList.contains (direction c)

/-- **The rule for the direction of a label** in a name with text from right
to left. -/
def obeysDirection (label : List Char) : Bool :=
  let kinds := label.map direction
  let last := (kinds.reverse.dropWhile (· == 'M')).head?
  match kinds.head? with
  | none => true
  | some 'L' =>
    kinds.all "LESCTOBM".toList.contains && (last.map "LE".toList.contains).getD false
  | some first =>
    (first == 'R' || first == 'A')
      && kinds.all "RANESCTOBM".toList.contains
      && (last.map "RAEN".toList.contains).getD false
      && !(kinds.contains 'E' && kinds.contains 'N')

/-- Whether a non-joiner between two parts of a label shows: it breaks a
connection between letters that would join. -/
def breaksConnection (before after : List Char) : Bool :=
  let next (s : List Char) : Option Char :=
    ((s.map (kindOf joiningTable)).dropWhile (· == 'T')).head?
  (next before).any "LD".toList.contains && (next after).any "RD".toList.contains

/-- Whether the joiners of a label stand where they may: behind a virama, or
for the non-joiner where it breaks a connection. `before` is what precedes,
the last character first. -/
def obeysJoiners (before : List Char) : List Char → Bool
  | [] => true
  | c :: cs =>
    let afterVirama := before.head?.any fun v => combiningClass v == 9
    (if c.toNat = 0x200C then afterVirama || breaksConnection before cs
      else if c.toNat = 0x200D then afterVirama
      else true)
      && obeysJoiners (c :: before) cs

/-- Whether a label begins with no mark and uses joiners properly. -/
def isLabel (label : List Char) : Bool :=
  !(label.head?.any fun c => kindOf markTable c == 'M') && obeysJoiners [] label

/-- The text of an encoded label, which must be written the only way it can
be. -/
def decodeLabel? (encoded : List Char) : Option (List Char) := do
  guard (!encoded.isEmpty)
  let label ← Punycode.decode? encoded
  guard (label.any (128 ≤ ·.toNat) && label.all isValid && normal label == label)
  guard ((afterLead? encodedLead label).isNone && !label.contains '.')
  return label

/-- The text of a label, decoded if it is encoded. -/
def readLabel? (label : List Char) : Option (List Char) :=
  match afterLead? encodedLead label with
  | some encoded => decodeLabel? encoded
  | none => some label

/-- A label in ASCII. -/
def writeLabel (label : List Char) : List Char :=
  if label.all (·.toNat < 128) then label
  else encodedLead ++ Punycode.encode label

/-! ## Names -/

/-- Whether a name needs the tables: it has a character beyond ASCII, or a
label that may be encoded. -/
def needsTables (s : List Char) : Bool :=
  s.any (128 ≤ ·.toNat)
    || (splitAt (· == '.') (s.map Char.toLower)).any fun l =>
        (afterLead? encodedLead l).isSome

/-- The labels of a name that needs the tables. -/
def labels? (s : List Char) : Option (List (List Char)) := do
  let mapped := normal (← s.mapM mapChar?).flatten
  guard (!mapped.any isForbidden)
  let labels ← (splitAt (· == '.') mapped).mapM readLabel?
  guard (labels.all isLabel)
  guard (!labels.any (·.any isRightToLeft) || labels.all obeysDirection)
  return labels

/-- **The form of a host name in ASCII.** -/
def toAscii? (s : List Char) : Option (List Char) :=
  if needsTables s then
    (labels? s).map fun ls => List.intercalate ['.'] (ls.map writeLabel)
  else if s.any isForbidden then none
  else some (s.map Char.toLower)

end Gatehouse.Url.Idna
