/-!
# Configuration documents

A document is a table of named values. Tables are remembered by the way
they were written, because that decides whether they may be written to
again: a table with a header of its own is complete when the next header
comes, one that only leads to another may still get its header, and one
between braces is complete at once.
-/

namespace Gatehouse.Toml

/-- How a table came to be. -/
inductive TableKind where
  /-- It has a header of its own. -/
  | header
  /-- A longer header leads through it. -/
  | leading
  /-- A dotted key leads through it. -/
  | dotted
  /-- It stands between braces. -/
  | inline
deriving DecidableEq, Inhabited

/-- **A value of a document.** Numbers that are not whole and points in time
are only told apart from other values. -/
inductive Value where
  | text (s : String)
  | integer (n : Int)
  | float
  | boolean (b : Bool)
  | datetime
  | array (items : List Value)
  | table (kind : TableKind) (entries : List (String × Value))
  /-- Tables with headers in double brackets; never none. -/
  | tables (items : List (List (String × Value)))
deriving Inhabited

/-- The entries of a table, in the order of their writing. -/
abbrev Entries := List (String × Value)

/-- A reader takes something off the front of a text, or refuses. -/
abbrev Reader (α : Type) := List Char → Option (α × List Char)

/-- The value under a key. -/
def Entries.find? (es : Entries) (key : String) : Option Value :=
  (List.find? (fun e => e.1 = key) es).map (·.2)

/-- Puts a value under a key that is there already, or behind all others. -/
def Entries.put (es : Entries) (key : String) (v : Value) : Entries :=
  if es.any (·.1 = key) then es.map fun e => if e.1 = key then (key, v) else e
  else es ++ [(key, v)]

/-- Takes a key out. -/
def Entries.erase (es : Entries) (key : String) : Entries :=
  List.filter (fun e => e.1 ≠ key) es

end Gatehouse.Toml
