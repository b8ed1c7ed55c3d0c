import Gatehouse.Text.Ascii

/-!
# Request URIs

A request names its resource in one of four forms: a path with an optional
query (`/a?b`), an absolute URI, a bare authority (`host:80`), or `*`. The
three parts are kept as they were written; a fragment is cut off. Nothing
is decoded or normalised, so `Uri.toText` gives back what was read up to an
empty path, which is written `/`.

The grammar is that of a careful HTTP server rather than of a browser: a
character that should have been percent-encoded is refused, with a few
exceptions that clients rely on (`"` and braces in the path, any non-ASCII
character).
-/

namespace Gatehouse.Http

open Text

/-- A request URI. -/
structure Uri where
  /-- The scheme of an absolute URI. -/
  scheme : Option String
  /-- Userinfo, host and port, of an absolute URI or of a bare
  authority. -/
  authority : Option String
  /-- The path and query; a bare authority has none. -/
  target : Option String
deriving DecidableEq, Inhabited

namespace Uri

/-! ## Characters -/

/-- Whether a character may stand in an authority. -/
def isAuthorityChar (c : Char) : Bool :=
  c.isAlphanum || "!$&'()*+,-.:;=@[]_~%".toList.contains c

/-- Whether a character may stand in a scheme. -/
def isSchemeChar (c : Char) : Bool :=
  c.isAlphanum || c == '+' || c == '-' || c == '.'

/-- Whether a character may stand in a path. -/
def isPathChar (c : Char) : Bool :=
  let n := c.toNat
  n == 0x21 || n == 0x22 || (0x24 ≤ n && n ≤ 0x3B) || n == 0x3D
    || (0x40 ≤ n && n ≤ 0x5F) || (0x61 ≤ n && n ≤ 0x7E) || 0x80 ≤ n

/-- Whether a character may stand in a query. -/
def isQueryChar (c : Char) : Bool :=
  let n := c.toNat
  n == 0x21 || (0x24 ≤ n && n ≤ 0x3B) || n == 0x3D
    || (0x3F ≤ n && n ≤ 0x7E) || 0x80 ≤ n

/-! ## Parts -/

/-- The part of a text before its fragment. -/
def withoutFragment (s : List Char) : List Char :=
  s.takeWhile (· != '#')

/-- **Reads a path and query.** The fragment is dropped, and the empty text
stands for `/`. -/
def targetChars? (s : List Char) : Option (List Char) :=
  let s := withoutFragment s
  let path := s.takeWhile (· != '?')
  let query := (s.dropWhile (· != '?')).drop 1
  if path.all isPathChar && query.all isQueryChar then
    some (if s.isEmpty then ['/'] else s)
  else none

/-- Why a text is no authority. -/
inductive AuthorityError where
  /-- It has a character that no URI may contain. -/
  | badCharacter
  /-- Its brackets, colons, percent signs or userinfo are out of place. -/
  | malformed
  /-- It is empty. -/
  | empty
deriving DecidableEq, Inhabited

/-- The text of an authority error. -/
def AuthorityError.message : AuthorityError → String
  | .badCharacter => "invalid uri character"
  | .malformed => "invalid authority"
  | .empty => "empty string"

/-- What the scan of an authority has met so far. -/
structure AuthorityScan where
  /-- Colons since the last `@` or `]`. -/
  colons : Nat
  /-- Whether `[` was met. -/
  opened : Bool
  /-- Whether `]` was met. -/
  closed : Bool
  /-- Whether a percent sign was met since the last `@` or `]`. -/
  percent : Bool
  /-- Whether the last character was `@`. -/
  atEnd : Bool

/-- One step of the scan. -/
def AuthorityScan.step (s : AuthorityScan) (c : Char) :
    Except AuthorityError AuthorityScan :=
  let s' := { s with atEnd := c == '@' }
  if !isAuthorityChar c then .error .badCharacter
  else if c == ':' then
    if s.colons ≥ 8 then .error .malformed else .ok { s' with colons := s.colons + 1 }
  else if c == '[' then
    if s.percent || s.opened then .error .malformed else .ok { s' with opened := true }
  else if c == ']' then
    if !s.opened || s.closed then .error .malformed
    else .ok { s' with closed := true, colons := 0, percent := false }
  else if c == '@' then .ok { s' with colons := 0, percent := false }
  else if c == '%' then .ok { s' with percent := true }
  else .ok s'

/-- Whether the scan may end here: brackets are paired, at most one colon
stands before a port, and something follows the userinfo. -/
def AuthorityScan.isFinal (s : AuthorityScan) : Bool :=
  s.opened == s.closed && s.colons ≤ 1 && !s.percent && !s.atEnd

/-- **Checks that a text is an authority**: balanced brackets, at most one
colon outside them, and percent signs in the userinfo only. The empty text
passes. -/
def checkAuthority (s : List Char) : Except AuthorityError Unit := do
  let scan ← s.foldlM AuthorityScan.step ⟨0, false, false, false, false⟩
  if scan.isFinal then .ok () else .error .malformed

/-- Whether a text is an authority. -/
def isAuthority (s : List Char) : Bool :=
  match checkAuthority s with
  | .ok _ => true
  | .error _ => false

/-- The authority that a text which is not empty writes. -/
def readAuthority (s : List Char) : Except AuthorityError String := do
  if s.isEmpty then throw .empty
  checkAuthority s
  return String.ofList s

/-- Whether a character ends an authority. -/
def endsAuthority (c : Char) : Bool :=
  c == '/' || c == '?' || c == '#'

/-- The scheme of an absolute URI and the text after `://`. Only `http`
and `https` are told apart from other schemes, by any case. -/
def schemeChars? (s : List Char) : Option (List Char × List Char) :=
  let name := s.takeWhile isSchemeChar
  match s.dropWhile isSchemeChar with
  | ':' :: '/' :: '/' :: rest =>
    let folded := name.map Char.toLower
    if folded == "http".toList || folded == "https".toList then
      some (folded, rest)
    else some (name, rest)
  | _ => none

/-- The longest scheme that is accepted. -/
def maxScheme : Nat := 64

/-- The longest URI that is accepted, in bytes. -/
def maxLength : Nat := 65534

/-- The URI of a text that starts neither with `/` nor is `*`. -/
def full? (s : List Char) : Option Uri :=
  match schemeChars? s with
  | none =>
    if isAuthority s then some ⟨none, some (String.ofList s), none⟩ else none
  | some (scheme, rest) => do
    guard (scheme.length ≤ maxScheme)
    let authority := rest.takeWhile (!endsAuthority ·)
    guard (!authority.isEmpty && isAuthority authority)
    let target ← targetChars? (rest.dropWhile (!endsAuthority ·))
    return ⟨some (String.ofList scheme), some (String.ofList authority),
      some (String.ofList target)⟩

/-- **Reads a request URI.** -/
def parse? (text : String) : Option Uri :=
  let s := text.toList
  if text.utf8ByteSize > maxLength then none
  else match s with
    | [] => none
    | ['*'] => some ⟨none, none, some "*"⟩
    | '/' :: _ => (targetChars? s).map fun t => ⟨none, none, some (String.ofList t)⟩
    | _ => full? s

/-! ## Readings -/

/-- The path of a path and query; an empty path reads `/`. -/
def pathOfTarget (target : String) : String :=
  let path := target.toList.takeWhile (· != '?')
  if path.isEmpty then "/" else String.ofList path

/-- The path, which is empty for a bare authority. -/
def path (u : Uri) : String :=
  match u.target with
  | some t => pathOfTarget t
  | none => ""

/-- The path and query as they are forwarded; `/` stands in where the URI
has none. -/
def targetOrRoot (u : Uri) : String := u.target.getD "/"

/-- The text of a URI. -/
def toText (u : Uri) : String :=
  let scheme := match u.scheme with
    | some s => s ++ "://"
    | none => ""
  let query := match u.target with
    | some t => String.ofList (t.toList.dropWhile (· != '?'))
    | none => ""
  scheme ++ u.authority.getD "" ++ u.path ++ query

end Uri

end Gatehouse.Http
