import Gatehouse.Http.Uri
import Gatehouse.Url.Parser

/-!
# Where requests are forwarded to

A target is one host and port and a path in front of all others. It is
fixed by the configuration alone: the only thing a request contributes to
the URI that is asked for is its own path and query, which are put behind
the base path as they are.
-/

namespace Gatehouse.Forward

open Http Url

/-- **A fixed destination.** -/
structure Target where
  /-- Host and port. -/
  authority : String
  /-- The path in front of all others, without a slash at its end. -/
  basePath : String
deriving DecidableEq, Inhabited

/-- Why a URL is no destination. -/
inductive TargetFault where
  /-- It is no URL. -/
  | notAUrl (error : UrlError)
  /-- It names no host. -/
  | missingHost
  /-- It names no port, and its scheme has no usual one. -/
  | missingPort
  /-- Its host cannot be written in a request. -/
  | authority (error : Uri.AuthorityError)
deriving DecidableEq, Inhabited

/-- The text of a fault. -/
def TargetFault.message : TargetFault → String
  | .notAUrl e => e.message
  | .missingHost => "missing host"
  | .missingPort => "missing port"
  | .authority e => e.message

/-- A path without the slashes at its end. -/
def withoutTrailingSlashes (path : List Char) : List Char :=
  (path.reverse.dropWhile (· == '/')).reverse

namespace Target

/-- The destination that a parsed URL names. -/
def ofUrl (u : Url) : Except TargetFault Target :=
  match u.host with
  | none => .error .missingHost
  | some host =>
    match u.effectivePort? with
    | none => .error .missingPort
    | some port =>
      match Uri.readAuthority (host.toChars ++ ':' :: Nat.toDigits 10 port) with
      | .error e => .error (.authority e)
      | .ok authority =>
        .ok ⟨authority, String.ofList (withoutTrailingSlashes u.path)⟩

/-- **The destination that a text names.** -/
def parse (text : String) : Except TargetFault Target :=
  match Url.parse text with
  | .error e => .error (.notAUrl e)
  | .ok u => ofUrl u

/-- **The URI to ask for** in place of the URI of a request. -/
def uriFor? (t : Target) (u : Uri) : Option Uri :=
  (Uri.targetChars? (t.basePath.toList ++ u.targetOrRoot.toList)).map fun target =>
    ⟨some "http", some t.authority, some (String.ofList target)⟩

end Target

end Gatehouse.Forward
