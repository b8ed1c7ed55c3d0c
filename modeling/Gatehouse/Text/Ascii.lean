/-!
# ASCII case, digits and pieces of text

Names of headers, countries and hosts are compared after a change of case
that touches the letters `A`–`Z` alone. Text is taken apart at a separator
by `splitAt`, which never drops an empty piece: `n` separators give `n + 1`
pieces.
-/

namespace Gatehouse.Text

/-- The text with the letters `a`–`z` replaced by their capitals. -/
def upper (s : String) : String :=
  String.ofList (s.toList.map Char.toUpper)

/-- The text with the letters `A`–`Z` replaced by their small forms. -/
def lower (s : String) : String :=
  String.ofList (s.toList.map Char.toLower)

/-- The value of a hexadecimal digit, of either case. -/
def hexValue? (c : Char) : Option Nat :=
  if c.isDigit then some (c.toNat - 48)
  else if 97 ≤ c.toNat && c.toNat ≤ 102 then some (c.toNat - 87)
  else if 65 ≤ c.toNat && c.toNat ≤ 70 then some (c.toNat - 55)
  else none

/-- Whether a character is a hexadecimal digit. -/
def isHex (c : Char) : Bool := (hexValue? c).isSome

/-- The pieces of a list between the elements that satisfy `sep`; there is
always at least one, and empty pieces are kept. -/
def splitAt {α : Type} (sep : α → Bool) : List α → List (List α)
  | [] => [[]]
  | c :: cs =>
    if sep c then [] :: splitAt sep cs
    else match splitAt sep cs with
      | [] => [[c]]
      | piece :: pieces => (c :: piece) :: pieces

theorem splitAt_ne_nil {α : Type} (sep : α → Bool) (cs : List α) :
    splitAt sep cs ≠ [] := by
  cases cs with
  | nil => simp [splitAt]
  | cons c cs =>
    simp only [splitAt]
    split
    · simp
    · split <;> simp

/-- The texts between the commas of a text. -/
def commaPieces (s : String) : List String :=
  (splitAt (· == ',') s.toList).map String.ofList

/-- The text before the first element satisfying `sep` and the text after
it, if there is one. -/
def cutAt? {α : Type} (sep : α → Bool) : List α → Option (List α × List α)
  | [] => none
  | c :: cs =>
    if sep c then some ([], cs)
    else (cutAt? sep cs).map fun (before, after) => (c :: before, after)

/-- What is left of a list after a leading `lead`, if it begins so. -/
def afterLead? {α : Type} [BEq α] : (lead s : List α) → Option (List α)
  | [], s => some s
  | _ :: _, [] => none
  | l :: ls, c :: cs => if l == c then afterLead? ls cs else none

/-- Whether a list occurs in another as a run. -/
def hasPart {α : Type} [BEq α] (part : List α) : List α → Bool
  | [] => part.isEmpty
  | c :: cs => (afterLead? part (c :: cs)).isSome || hasPart part cs

/-- Texts joined with a separator between each two. -/
def join (sep : String) : List String → String
  | [] => ""
  | [s] => s
  | s :: rest => s ++ sep ++ join sep rest

/-- Which of two texts comes first in the order of their code points. -/
def compareCodes : List Char → List Char → Ordering
  | [], [] => .eq
  | [], _ :: _ => .lt
  | _ :: _, [] => .gt
  | a :: as, b :: bs =>
    if a.toNat < b.toNat then .lt
    else if b.toNat < a.toNat then .gt
    else compareCodes as bs

end Gatehouse.Text
