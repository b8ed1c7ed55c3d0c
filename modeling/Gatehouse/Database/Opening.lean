import Gatehouse.Database.Basic
import Gatehouse.Files

/-!
# Finding and opening a database

A configured path is taken as it is. Without one, the usual places are
tried in their order, and the first that holds a file decides, whether or
not that file is a database.
-/

namespace Gatehouse.Database

/-- Where a database is looked for. -/
def candidates : List String :=
  ["./GeoLite2-Country.mmdb",
   "./data/GeoLite2-Country.mmdb",
   "./storage/GeoLite2-Country.mmdb",
   "./fixtures/GeoLite2-Country.mmdb"]

/-- **The first path that leads to a file.** -/
def find {m : Type → Type} [Monad m] (openFile : String → m Files.Opened) :
    List String → m (Option String)
  | [] => pure none
  | path :: rest => do
    match ← openFile path with
    | .found (.file _) _ => return some path
    | _ => find openFile rest

/-- The database at a path. -/
def openAt {m : Type → Type} [Monad m] (openFile : String → m Files.Opened)
    (path : String) : m (Except OpenError Database) := do
  match ← openFile path with
  | .found (.file data) _ =>
    match ofFile? path ⟨data.toArray⟩ with
    | some d => return .ok d
    | none => return .error (.unusable path)
  | _ => return .error (.unusable path)

/-- **The database at the configured path**, or at the first usual place
that holds a file. -/
def openConfigured {m : Type → Type} [Monad m] (openFile : String → m Files.Opened)
    (path : Option String) : m (Except OpenError Database) := do
  match path with
  | some path => openAt openFile path
  | none =>
    match ← find openFile candidates with
    | some path => openAt openFile path
    | none => return .error (.notFound candidates)

end Gatehouse.Database
