import Gatehouse.Toml.Parser

/-!
# Reading documents

A document is a sequence of lines: blank lines and comments, headers, and
keys with their values, which may go on for several lines. The table of the
latest header is kept apart from the others until the next header comes, so
that a key never writes into a finished table.
-/

namespace Gatehouse.Toml

/-- A document that is being read. -/
structure Draft where
  /-- The finished tables. -/
  root : Entries
  /-- The entries of the latest header, or those before any header. -/
  current : Entries
  /-- The path of the latest header; it is empty before any header. -/
  path : List String
  /-- Whether the latest header stands in double brackets. -/
  isArray : Bool

namespace Draft

/-- A document of which nothing is read. -/
def empty : Draft := ⟨[], [], [], false⟩

/-- Adds a finished table to an array of tables, which is made if it is
missing. -/
def pushTable (last : String) (table : Entries) (es : Entries) : Option Entries :=
  match es.find? last with
  | none => some (es ++ [(last, .tables [table])])
  | some (.tables items) => some (es.put last (.tables (items ++ [table])))
  | some _ => none

/-- The finished tables, with the latest one among them. -/
def finish (d : Draft) : Option Entries :=
  match d.path.getLast? with
  | none => some d.current
  | some last =>
    alter false (fun _ es =>
      if d.isArray then pushTable last d.current es
      else some (es.put last (.table .header d.current)))
      d.path.dropLast .header d.root

/-- The table that a header takes up again: one that only leads to others.
A table with any other past is finished, and no header may name it. -/
def resumed? : Option Value → Option Entries
  | none => some []
  | some (.table .leading es) => some es
  | some _ => none

/-- The table at a path of finished tables. -/
def tableAt? : List String → Entries → Option Entries
  | [], es => some es
  | k :: path, es =>
    match es.find? k with
    | none => some []
    | some (.table kind sub) => if kind = .inline then none else tableAt? path sub
    | some (.tables items) => items.getLast?.bind (tableAt? path)
    | some _ => none

/-- Begins the table of a header in single brackets. -/
def beginTable (d : Draft) (path : List String) : Option Draft := do
  let root ← d.finish
  let last ← path.getLast?
  let parent ← tableAt? path.dropLast root
  let current ← resumed? (parent.find? last)
  let root ← alter false (fun _ es => some (es.erase last)) path.dropLast .header root
  return ⟨root, current, path, false⟩

/-- Begins a table of a header in double brackets. -/
def beginArrayTable (d : Draft) (path : List String) : Option Draft := do
  let root ← d.finish
  let last ← path.getLast?
  let parent ← tableAt? path.dropLast root
  let root ← alter false (fun _ es => some es) path.dropLast .header root
  match parent.find? last with
  | none => return ⟨root, [], path, true⟩
  | some (.tables _) => return ⟨root, [], path, true⟩
  | some _ => none

/-- Puts a value under a key of the latest header. -/
def insert (d : Draft) (path : List String) (v : Value) : Option Draft := do
  return { d with current := ← insertPair .header d.current path v }

end Draft

/-- Reads one line that is neither blank nor a comment, or several if its
value goes on. -/
def line (d : Draft) : Reader Draft := fun s => do
  match s with
  | '[' :: '[' :: rest =>
    let (path, rest) ← key rest
    match rest with
    | ']' :: ']' :: rest => return (← d.beginArrayTable path, ← afterLine? rest)
    | _ => none
  | '[' :: rest =>
    let (path, rest) ← key rest
    match rest with
    | ']' :: rest => return (← d.beginTable path, ← afterLine? rest)
    | _ => none
  | _ =>
    let (path, rest) ← key s
    match rest with
    | '=' :: rest =>
      let (v, rest) ← value (dropSpaces rest)
      return (← d.insert path v, ← afterLine? rest)
    | _ => none

/-- Reads the lines of a text. -/
def lines (d : Draft) : (steps : Nat) → List Char → Option Draft
  | 0, _ => none
  | steps + 1, s =>
    match dropSpaces s with
    | [] => some d
    | '#' :: rest => (afterLine? ('#' :: rest)).bind (lines d steps)
    | s =>
      match afterBreak? s with
      | some rest => lines d steps rest
      | none => (line d s).bind fun (d, rest) => lines d steps rest

/-- **The entries of a document.** A byte order mark in front of it is
ignored. -/
def parse? (text : String) : Option Entries :=
  let s := match text.toList with
    | '\ufeff' :: rest => rest
    | s => s
  (lines .empty (s.length + 1) s).bind Draft.finish

end Gatehouse.Toml
