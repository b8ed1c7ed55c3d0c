import Gatehouse.Url.Host

/-!
# Reading URLs

URLs are read the way browsers read them: blanks around and line breaks
inside are dropped, known schemes take backslashes for slashes and any
number of them before the host, and a path has its dots resolved. The
result keeps what the gate needs: scheme, host, port and path. Userinfo,
query and fragment are read over.

Each part is a function of its own text, and errors arise in the order in
which the parts stand: a missing scheme first, then userinfo, host and port.
-/

namespace Gatehouse

/-- **What is kept of a URL.** -/
structure Url where
  /-- The scheme, in lower case. -/
  scheme : String
  host : Option Url.Host
  /-- The port, unless it is the usual one of the scheme. -/
  port : Option Nat
  /-- The path, percent-encoded. -/
  path : List Char
deriving DecidableEq, Inhabited

namespace Url

open Text

/-! ## Schemes -/

/-- The usual port of a scheme. -/
def usualPort? (scheme : String) : Option Nat :=
  if scheme = "http" || scheme = "ws" then some 80
  else if scheme = "https" || scheme = "wss" then some 443
  else if scheme = "ftp" then some 21
  else none

/-- Whether a scheme has the syntax that browsers give to known schemes,
files aside. -/
def isKnown (scheme : String) : Bool := (usualPort? scheme).isSome

/-- Whether a character may stand in a scheme behind its first letter. -/
def isSchemeChar (c : Char) : Bool :=
  c.isAlphanum || c == '+' || c == '-' || c == '.'

/-- The scheme and the text after its colon. -/
def scheme? (s : List Char) : Option (String × List Char) :=
  match s with
  | [] => none
  | c :: _ =>
    if c.isAlpha then
      match s.dropWhile isSchemeChar with
      | ':' :: rest => some (lower (String.ofList (s.takeWhile isSchemeChar)), rest)
      | _ => none
    else none

/-! ## Authority -/

/-- Whether a character ends the authority. -/
def endsAuthority (known : Bool) (c : Char) : Bool :=
  c == '/' || c == '?' || c == '#' || (known && c == '\\')

/-- The userinfo and the text after its `@`, which is the last one in the
authority. -/
def userinfo? (authority : List Char) : Option (List Char × List Char) :=
  (cutAt? (· == '@') authority.reverse).map fun (after, before) =>
    (before.reverse, after.reverse)

/-- Whether a userinfo names a user or a password: it is more than a
colon. -/
def isCredential (userinfo : List Char) : Bool :=
  !userinfo.isEmpty && userinfo != [':']

/-- The text of the host at the head of an authority: up to the first colon
that is not in brackets. -/
def hostText (bracket : Bool) : List Char → List Char
  | [] => []
  | c :: cs =>
    if c == ':' && !bracket then []
    else if c == '[' then c :: hostText true cs
    else if c == ']' then c :: hostText false cs
    else c :: hostText bracket cs

/-- The port after a colon: digits, or nothing for the usual port. -/
def readPort (scheme : String) (s : List Char) : Except UrlError (Option Nat) :=
  if s.isEmpty then .ok none
  else match Decimal.digits? 65535 s with
    | some n => .ok (if usualPort? scheme = some n then none else some n)
    | none => .error .invalidPort

/-- What an authority without userinfo says. -/
structure Place where
  host : Option Host
  port : Option Nat
  /-- What is left behind the port: a backslash, which belongs to the path
  where it is no slash. -/
  rest : List Char

/-- The host and port of an authority without userinfo. -/
def place (scheme : String) (s : List Char) : Except UrlError Place := do
  let known := isKnown scheme
  let text := hostText false s
  let rest := s.drop text.length
  if text.isEmpty && (known || rest.head? == some ':') then throw .emptyHost
  let host ← if known then Host.parse text else Host.parseOpaque text
  let host := if host = .name "" then none else some host
  match rest with
  | ':' :: digits =>
    let port ← readPort scheme (digits.takeWhile (· != '\\'))
    return ⟨host, port, digits.dropWhile (· != '\\')⟩
  | _ => return ⟨host, none, []⟩

/-! ## Path -/

/-- Whether a segment means "here". -/
def isDot (segment : List Char) : Bool :=
  let s := segment.map Char.toLower
  s == ".".toList || s == "%2e".toList

/-- Whether a segment means "one up". -/
def isDoubleDot (segment : List Char) : Bool :=
  let s := segment.map Char.toLower
  s == "..".toList || s == ".%2e".toList || s == "%2e.".toList || s == "%2e%2e".toList

/-- Resolves the dots in a list of segments. `done` are the segments so
far, the last one first. -/
def resolveDots (done : List (List Char)) : List (List Char) → List (List Char)
  | [] => done.reverse
  | [last] =>
    if isDoubleDot last then ([] :: done.drop 1).reverse
    else if isDot last then ([] :: done).reverse
    else (last :: done).reverse
  | s :: rest =>
    if isDoubleDot s then resolveDots (done.drop 1) rest
    else if isDot s then resolveDots done rest
    else resolveDots (s :: done) rest

/-- The path that a text up to the query writes. -/
def readPath (known : Bool) (s : List Char) : List Char :=
  let isSlash (c : Char) : Bool := c == '/' || (known && c == '\\')
  let text := s.takeWhile fun c => c != '?' && c != '#'
  match text with
  | [] => if known then ['/'] else []
  | c :: cs =>
    let text := if isSlash c then cs else text
    let segments := (splitAt isSlash text).map (percentEncode isEscapedInPath)
    (resolveDots [] segments).flatMap ('/' :: ·)

/-! ## URLs -/

/-- A URL from its authority on. -/
def withAuthority (scheme : String) (s : List Char) : Except UrlError Url := do
  let known := isKnown scheme
  let authority := s.takeWhile (!endsAuthority known ·)
  let after := s.dropWhile (!endsAuthority known ·)
  match userinfo? authority with
  | none =>
    let p ← place scheme authority
    return ⟨scheme, p.host, p.port, readPath known (p.rest ++ after)⟩
  | some (userinfo, rest) =>
    if userinfo.isEmpty && rest.isEmpty && !after.isEmpty then throw .emptyHost
    let p ← place scheme rest
    if p.host.isNone && isCredential userinfo then throw .emptyHost
    return ⟨scheme, p.host, p.port, readPath known (p.rest ++ after)⟩

/-- Whether a text is the letter of a drive and its colon. -/
def isDrive : List Char → Bool
  | [c, d] => c.isAlpha && (d == ':' || d == '|')
  | _ => false

/-- The host of a file URL, which the local host and drives leave out. -/
def fileHost (s after : List Char) : Except UrlError (Option Host) := do
  if s.isEmpty || isDrive s then return none
  let host ← Host.parse s
  let first := (after.drop 1).takeWhile (!endsAuthority true ·)
  if host = .name "localhost" || isDrive first then return none
  return some host

/-- A file URL from the text after its scheme. -/
def fileUrl (s : List Char) : Except UrlError Url := do
  match s with
  | a :: b :: rest =>
    if endsAuthority true a && endsAuthority true b && a != '?' && a != '#'
        && b != '?' && b != '#' then
      let host := rest.takeWhile (!endsAuthority true ·)
      let after := rest.dropWhile (!endsAuthority true ·)
      return ⟨"file", ← fileHost host after, none, readPath true after⟩
    else return ⟨"file", none, none, readPath true s⟩
  | _ => return ⟨"file", none, none, readPath true s⟩

/-- The text without the blanks and controls around it and without the line
breaks and tabs in it. -/
def cleaned (s : List Char) : List Char :=
  let inner := (s.dropWhile (·.toNat ≤ 32)).reverse
  (inner.dropWhile (·.toNat ≤ 32)).reverse.filter fun c =>
    c != '\t' && c != '\n' && c != '\r'

/-- **Reads a URL.** -/
def parse (text : String) : Except UrlError Url :=
  match scheme? (cleaned text.toList) with
  | none => .error .relative
  | some (scheme, rest) =>
    if scheme = "file" then fileUrl rest
    else if isKnown scheme then
      withAuthority scheme (rest.dropWhile fun c => c == '/' || c == '\\')
    else match rest with
      | '/' :: '/' :: rest => withAuthority scheme rest
      | '/' :: _ => .ok ⟨scheme, none, none, readPath false rest⟩
      | _ => .ok ⟨scheme, none, none,
          percentEncode isControlOrWide (rest.takeWhile fun c => c != '?' && c != '#')⟩

/-- The port that a URL leads to. -/
def effectivePort? (u : Url) : Option Nat := u.port.or (usualPort? u.scheme)

end Url

end Gatehouse
