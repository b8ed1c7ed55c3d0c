/-!
# Tables of character properties

A table is a text of rows in the order of their code points. A row is one
letter, after the hexadecimal distance from the row before (one, if nothing
is written) and before the hexadecimal numbers that belong to it, with dots
between them. It holds from its code point up to the next row.
-/

namespace Gatehouse.Url.Idna

/-- A row of a table. -/
structure Row where
  /-- The first code point the row holds for. -/
  first : Nat
  /-- The class of the characters. -/
  kind : Char
  /-- The numbers that belong to the class. -/
  codes : List Nat
deriving Inhabited

/-- What has been read of a table. -/
structure RowReader where
  /-- The code point of the present row. -/
  at_ : Nat
  /-- The letter of the present row, once it is read. -/
  kind : Option Char
  /-- The number that is being read, if any digit was. -/
  number : Option Nat
  /-- The numbers of the present row, the last one first. -/
  codes : List Nat
  rows : Array Row

namespace RowReader

/-- Ends the present row. -/
def close (r : RowReader) : RowReader :=
  match r.kind with
  | none => { r with number := none }
  | some k =>
    let codes := (r.number.toList ++ r.codes).reverse
    { r with
      kind := none, number := none, codes := []
      rows := r.rows.push ⟨r.at_, k, codes⟩ }

/-- Reads one character. -/
def read (r : RowReader) (c : Char) : RowReader :=
  if c.isUpper then
    { r with at_ := r.at_ + r.number.getD 1, kind := some c, number := none }
  else if c == '.' then
    { r with codes := r.number.toList ++ r.codes, number := none }
  else if c.isDigit then
    { r with number := some (r.number.getD 0 * 16 + (c.toNat - 48)) }
  else if c.isLower then
    { r with number := some (r.number.getD 0 * 16 + (c.toNat - 87)) }
  else r.close

end RowReader

/-- The rows that a text describes. -/
def rows (text : String) : Array Row :=
  (text.toList.foldl RowReader.read ⟨0, none, none, [], #[]⟩).close.rows

/-- The last row among `count` rows from `low` on that begins at or before
a code point. -/
def lastRow? (table : Array Row) (code low count : Nat) : Option Row :=
  if count ≤ 1 then
    (table[low]?).filter (·.first ≤ code)
  else
    let half := count / 2
    match table[low + half]? with
    | none => none
    | some r =>
      if r.first ≤ code then lastRow? table code (low + half) (count - half)
      else lastRow? table code low half
termination_by count

/-- The row that holds for a character. -/
def row? (table : Array Row) (c : Char) : Option Row :=
  lastRow? table c.toNat 0 table.size

/-- The class of a character. -/
def kindOf (table : Array Row) (c : Char) : Char :=
  ((row? table c).map (·.kind)).getD 'N'

end Gatehouse.Url.Idna
