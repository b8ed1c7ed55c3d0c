import Gatehouse.Toml.Number
import Gatehouse.Toml.Text

/-!
# Keys and values of a document

Values nest: arrays and tables between braces hold further values, up to
eighty levels deep, and a dotted key counts a level for each of its parts.
The readers of nested values take the reader of their members as a
parameter, so that depth and length are bounded apart from each other.
-/

namespace Gatehouse.Toml

/-- The number of levels at which nesting is refused. -/
def depthLimit : Nat := 80

/-! ## Blanks -/

/-- The text behind spaces and tabs. -/
def dropSpaces (s : List Char) : List Char := s.dropWhile isSpace

/-- The text behind a comment, which ends before its line does; a control
character in it is left over. -/
def dropComment : List Char → List Char
  | '#' :: rest => rest.dropWhile isPrintable
  | s => s

/-- What follows the end of a line: blanks, a comment, and a line break or
the end of the text. -/
def afterLine? (s : List Char) : Option (List Char) :=
  match dropComment (dropSpaces s) with
  | [] => some []
  | rest => afterBreak? rest

/-- The text behind blanks, line breaks and comments in an array; a comment
has to end with a line break. -/
def dropLines : (steps : Nat) → List Char → Option (List Char)
  | 0, s => some s
  | steps + 1, s =>
    match dropSpaces s with
    | '#' :: rest =>
      match afterBreak? (rest.dropWhile isPrintable) with
      | some r => dropLines steps r
      | none => none
    | rest =>
      match afterBreak? rest with
      | some r => dropLines steps r
      | none => some rest

/-- The text behind blanks, line breaks and comments. -/
def dropBlanks (s : List Char) : Option (List Char) := dropLines (s.length + 1) s

/-! ## Keys -/

/-- Whether a character may stand in a key without quotes. -/
def isBareChar (c : Char) : Bool := c.isAlphanum || c == '_' || c == '-'

/-- One part of a key. -/
def keyPart : Reader String := fun s =>
  match s with
  | '"' :: rest => (basicBody rest).map fun (t, r) => (String.ofList t, r)
  | '\'' :: rest => (literalBody rest).map fun (t, r) => (String.ofList t, r)
  | _ =>
    let name := s.takeWhile isBareChar
    if name.isEmpty then none
    else some (String.ofList name, s.dropWhile isBareChar)

/-- Parts of a key between dots, with blanks around each. -/
def keyParts : (limit : Nat) → Reader (List String)
  | 0, _ => none
  | limit + 1, s => do
    let (part, rest) ← keyPart (dropSpaces s)
    match dropSpaces rest with
    | '.' :: more =>
      let (parts, rest) ← keyParts limit more
      return (part :: parts, rest)
    | rest => return ([part], rest)

/-- **A key**: the path that its parts name. -/
def key : Reader (List String) := keyParts (depthLimit - 1)

/-! ## Values -/

/-- Members of an array up to its closing bracket. -/
def members (member : Reader Value) : (steps : Nat) → Reader (List Value)
  | 0, _ => none
  | steps + 1, s => do
    match ← dropBlanks s with
    | ']' :: rest => return ([], rest)
    | rest =>
      let (v, rest) ← member rest
      match ← dropBlanks rest with
      | ',' :: rest =>
        let (vs, rest) ← members member steps rest
        return (v :: vs, rest)
      | ']' :: rest => return ([v], rest)
      | _ => none

/-- A key with its value, in a table between braces. -/
def pair (member : Reader Value) : Reader (List String × Value) := fun s => do
  let (path, rest) ← key s
  match rest with
  | '=' :: rest =>
    let (v, rest) ← member (dropSpaces rest)
    return ((path, v), dropSpaces rest)
  | _ => none

/-- Pairs up to the closing brace; at least one follows. -/
def pairs (member : Reader Value) : (steps : Nat) → Reader (List (List String × Value))
  | 0, _ => none
  | steps + 1, s => do
    let (p, rest) ← pair member s
    match rest with
    | ',' :: rest =>
      let (ps, rest) ← pairs member steps rest
      return (p :: ps, rest)
    | '\x7d' :: rest => return ([p], rest)
    | _ => none

/-! ## Writing into tables -/

/-- Whether a dotted key may lead through a table of a kind. -/
def TableKind.isOpen : TableKind → Bool
  | .leading => true
  | .dotted => true
  | _ => false

/-- **Changes the table at a path.** Tables that are missing on the way are
made, and arrays of tables are entered at their last table. `dotted` tells
whether the path belongs to a dotted key, which must not lead through tables
that have a header. -/
def alter (dotted : Bool) (f : TableKind → Entries → Option Entries) :
    List String → TableKind → Entries → Option Entries
  | [], kind, es => f kind es
  | k :: path, _, es =>
    match es.find? k with
    | none => do
      let kind := if dotted then TableKind.dotted else .leading
      return es.put k (.table kind (← alter dotted f path kind []))
    | some (.table kind sub) =>
      if kind = .inline || (dotted && !kind.isOpen) then none
      else do return es.put k (.table kind (← alter dotted f path kind sub))
    | some (.tables items) =>
      match items.getLast? with
      | none => none
      | some last => do
        let last ← alter dotted f path .header last
        return es.put k (.tables (items.dropLast ++ [last]))
    | some _ => none

/-- Puts a value under the last part of a key. A dotted key writes only into
tables that dotted keys have made. -/
def insertPair (kind : TableKind) (es : Entries) (path : List String)
    (v : Value) : Option Entries :=
  match path.getLast? with
  | none => none
  | some last =>
    let lead := path.dropLast
    alter (!lead.isEmpty) (fun kind es =>
      if (kind == .dotted) == lead.isEmpty || (es.find? last).isSome then none
      else some (es ++ [(last, v)])) lead kind es

/-- The table between braces that holds some pairs. -/
def inlineTable? (ps : List (List String × Value)) : Option Value :=
  (ps.foldlM (fun es (path, v) => insertPair .inline es path v) []).map
    (.table .inline)

/-- **A value.** The bound is the number of levels that it may still
have. -/
def valueTo : (depth : Nat) → Reader Value
  | depth, s =>
    match s with
    | '"' :: _ => (string s).map fun (t, r) => (.text t, r)
    | '\'' :: _ => (string s).map fun (t, r) => (.text t, r)
    | '[' :: rest =>
      match depth with
      | 0 => none
      | depth + 1 =>
        (members (valueTo depth) (rest.length + 1) rest).map fun (vs, r) =>
          (.array vs, r)
    | '\x7b' :: rest =>
      match depth with
      | 0 => none
      | depth + 1 =>
        match dropSpaces rest with
        | '\x7d' :: rest => some (.table .inline [], rest)
        | rest => do
          let (ps, rest) ← pairs (valueTo depth) (rest.length + 1) rest
          return (← inlineTable? ps, rest)
    | 't' :: 'r' :: 'u' :: 'e' :: rest => some (.boolean true, rest)
    | 'f' :: 'a' :: 'l' :: 's' :: 'e' :: rest => some (.boolean false, rest)
    | _ => number s
termination_by structural depth => depth

/-- A value of a document. -/
def value : Reader Value := valueTo (depthLimit - 1)

end Gatehouse.Toml
