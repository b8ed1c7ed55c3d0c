import Gatehouse.Bytes
import Gatehouse.Text.Ascii

/-!
# Files

What the gate asks of the file system is little: whether a path names a
file, and what is in it. To open a path takes time, and a `Files.Disk` is
all that the gate can learn of a file system: what a path leads to, and how
long that takes. `Files.Tree` is a file system held in memory with the usual
meaning of `.`, `..`, doubled, leading and trailing slashes; outside of the
directory it describes there is nothing.
-/

namespace Gatehouse

open Text

namespace Files

/-- What lies under a path. -/
inductive Node where
  /-- A file with its contents. -/
  | file (data : Bytes)
  /-- A directory. -/
  | directory
deriving DecidableEq, Inhabited

/-- What opening a path leads to. -/
inductive Opened where
  /-- Nothing is there. -/
  | missing
  /-- Opening fails for another reason. -/
  | failed
  /-- Something is there; times are in seconds since 1970. -/
  | found (node : Node) (modified : Nat)
deriving DecidableEq, Inhabited

/-- **A disk**: what opening a path leads to, and how many milliseconds it
takes. -/
structure Disk where
  openPath : String → Opened
  delay : String → Nat

/-- A disk with nothing on it. -/
def Disk.empty : Disk := ⟨fun _ => .missing, fun _ => 0⟩

/-- **A file system in memory**: the files and directories below the
working directory, by the names that lead to them from there. -/
structure Tree where
  /-- What is there, by path. -/
  entries : List (List String × Node)
  /-- When everything was last modified. -/
  modified : Nat
  /-- The names that lead from the root to the working directory. -/
  working : List String := []
deriving DecidableEq, Inhabited

/-- The names of a path between slashes; doubled slashes count as one. -/
def names (path : String) : List String :=
  ((splitAt (· == '/') path.toList).map String.ofList).filter (· ≠ "")

namespace Tree

/-- The node under the names that lead to it from the root. The root itself,
and every directory on the way to the working directory or to an entry, is a
directory. -/
def node? (t : Tree) (place : List String) : Option Node :=
  match t.entries.find? fun e => t.working ++ e.1 = place with
  | some (_, n) => some n
  | none =>
    if place.isPrefixOf t.working
        || t.entries.any fun e => place.isPrefixOf (t.working ++ e.1) then
      some .directory
    else none

/-- Follows names from a directory. Above the root is the root. -/
def walk (t : Tree) (here : List String) : List String → Option (List String)
  | [] => some here
  | name :: rest =>
    if t.node? here ≠ some .directory then none
    else if name = "." then t.walk here rest
    else if name = ".." then t.walk here.dropLast rest
    else t.walk (here ++ [name]) rest

/-- The longest file name. -/
def maxName : Nat := 255

/-- The longest path. -/
def maxPath : Nat := 4095

/-- **Opens a path**, from the root if it begins with a slash and from the
working directory if not. -/
def openPath (t : Tree) (path : String) : Opened :=
  let ns := names path
  let start := if path.toList.head? = some '/' then [] else t.working
  if path.isEmpty || path.toList.any (fun c => c.toNat == 0) then .missing
  else if path.utf8ByteSize > maxPath || ns.any (fun n => n.utf8ByteSize > maxName) then .failed
  else match t.walk start ns with
    | none => .missing
    | some place =>
      match t.node? place with
      | none => .missing
      | some (.file data) =>
        if path.toList.getLast? = some '/' || ns.getLast? = some "." then .missing
        else .found (.file data) t.modified
      | some .directory => .found .directory t.modified

/-- **The disk of a tree.** What is held in memory is opened at once. -/
def disk (t : Tree) : Disk := ⟨t.openPath, fun _ => 0⟩

instance : Coe Tree Disk := ⟨Tree.disk⟩

end Tree

end Files

end Gatehouse
