import Gatehouse.Http.Message
import Gatehouse.Text.Blank
import Gatehouse.Text.Decimal

/-!
# What may be cached, under which key, for how long

A request is looked up under its host followed by its path and query, and
only when it is a `GET` without credentials. A response may be stored only
when its `Cache-Control` says `public` and gives a positive lifetime, and
nothing in it speaks against that. The directives of all `Cache-Control`
values are read together, so it does not matter how they are spread over
header lines.
-/

namespace Gatehouse.Cache

open Http Text

/-- The host that a request names: its first `Host` value if it is text, or
else the authority of its URI. -/
def hostOf (r : Request) : String :=
  match r.headers.text? "host" with
  | some host => host
  | none => r.uri.authority.getD ""

/-- **The key of a request**, unless it bypasses the cache. -/
def key? (r : Request) : Option String :=
  if r.method ≠ Method.get || r.headers.contains "authorization" then none
  else some (hostOf r ++ r.uri.targetOrRoot)

/-- What `Cache-Control` says about shared caches. -/
structure Directives where
  /-- `public` was given. -/
  isPublic : Bool
  /-- `private`, `no-store` or `no-cache` was given. -/
  isRestricted : Bool
  /-- The number of the last `s-maxage`, if it could be read. -/
  sharedMaxAge : Option Nat
  /-- The number of the last `max-age`, if it could be read. -/
  maxAge : Option Nat
deriving DecidableEq, Inhabited

namespace Directives

/-- No directives at all. -/
def empty : Directives := ⟨false, false, none, none⟩

/-- Adds one directive, trimmed and in lower case. Unknown ones have no
effect. -/
def add (d : Directives) (directive : String) : Directives :=
  if directive = "public" then { d with isPublic := true }
  else if directive = "private" || directive = "no-store"
      || directive = "no-cache" then
    { d with isRestricted := true }
  else
    match afterLead? "s-maxage=".toList directive.toList with
    | some secs => { d with sharedMaxAge := Decimal.unsigned? Decimal.max64 secs }
    | none =>
      match afterLead? "max-age=".toList directive.toList with
      | some secs => { d with maxAge := Decimal.unsigned? Decimal.max64 secs }
      | none => d

/-- The directives of a header value: its pieces between commas. -/
def pieces (value : String) : List String :=
  (commaPieces value).map fun p => lower (trim p)

/-- The directives of header values read together. -/
def ofValues (values : List String) : Directives :=
  (values.flatMap pieces).foldl add empty

/-- The lifetime that shared caches are given, in seconds. -/
def lifetime? (d : Directives) : Option Nat :=
  if d.isPublic && !d.isRestricted then
    (d.sharedMaxAge.or d.maxAge).filter (0 < ·)
  else none

end Directives

/-- Whether a `Vary` value leaves the response reusable: it is text other
than `*` alone. -/
def isReusableVary (value : Bytes) : Bool :=
  match value.text? with
  | some t => trim t ≠ "*"
  | none => false

/-- The length of a response: its first `Content-Length` if that is a
number, or else the length of its body where that is known. -/
def announcedLength? (r : Response) : Option Nat :=
  match (r.headers.text? "content-length").bind
      fun t => Decimal.unsigned? Decimal.max64 t.toList with
  | some n => some n
  | none => r.body.exactSize?

/-- **How long a response may be stored**, in seconds, unless it may not be
stored at all. -/
def lifetime? (r : Response) (maxItemSize : Nat) : Option Nat := do
  guard (r.status = Status.ok)
  guard (!r.headers.contains "set-cookie")
  guard ((r.headers.values "vary").all isReusableVary)
  guard ((← announcedLength? r) ≤ maxItemSize)
  let values ← (r.headers.values "cache-control").mapM Bytes.text?
  (Directives.ofValues values).lifetime?

end Gatehouse.Cache
