import Gatehouse.Chain.World
import Gatehouse.Http.Gzip
import Gatehouse.Text.Blank
import Gatehouse.Text.Decimal

/-!
# Compressing responses

A response is eligible for compression when it is long enough or of unknown
length, not encoded already, no part of a file, and of a type that gains by
it. Eligible responses announce that they vary with `Accept-Encoding`;
those whose client prefers gzip are compressed.
-/

namespace Gatehouse.Chain

open Http Text

/-- A coding of a response body. -/
inductive Coding where
  | identity
  | gzip
deriving DecidableEq, Inhabited

namespace Coding

/-- The coding of a name in `Accept-Encoding`, in any case of letters. -/
def ofName? (name : String) : Option Coding :=
  let name := lower name
  if name = "gzip" || name = "x-gzip" then some .gzip
  else if name = "identity" then some .identity
  else none

/-- The thousandths that up to three digits after the point stand for. -/
def thousandths? : List Char → Option Nat
  | [] => some 0
  | [a] => (Decimal.digits? 9 [a]).map (· * 100)
  | [a, b] => (Decimal.digits? 99 [a, b]).map (· * 10)
  | [a, b, c] => Decimal.digits? 999 [a, b, c]
  | _ => none

/-- The weight after `q=`, in thousandths. -/
def weight? : List Char → Option Nat
  | q :: '=' :: digit :: rest => do
    guard (q == 'q' || q == 'Q')
    let whole ← if digit = '0' then some 0 else if digit = '1' then some 1000 else none
    let fraction ← match rest with
      | [] => some 0
      | '.' :: ds => thousandths? ds
      | _ => none
    guard (whole + fraction ≤ 1000)
    return whole + fraction
  | _ => none

/-- A coding and its weight in a member of `Accept-Encoding`; unknown
codings and unreadable weights have no part in the choice. -/
def ofMember? (member : String) : Option (Coding × Nat) :=
  let s := member.toList
  match cutAt? (· == ';') s with
  | none => (ofName? (trim member)).map fun c => (c, 1000)
  | some (name, parameter) => do
    return (← ofName? (trim (String.ofList name)), ← weight? (trimChars parameter))

/-- Whether the second choice is to be taken over the first: a greater
weight wins, and gzip among equals. -/
def prefers (a b : Coding × Nat) : Bool :=
  a.2 < b.2 || (a.2 == b.2 && b.1 == .gzip)

/-- **The coding that a client prefers.** -/
def preferred (h : Headers) : Coding :=
  let members := ((h.values "accept-encoding").filterMap Bytes.text?).flatMap commaPieces
  let choices := (members.filterMap ofMember?).filter (0 < ·.2)
  match choices with
  | [] => .identity
  | c :: cs => (cs.foldl (fun best d => if prefers best d then d else best) c).1

end Coding

/-- The shortest body that is worth compressing. -/
def worthwhile : Nat := 32

/-- The length of a response, as far as it is known. -/
def knownLength? (a : Response) : Option Nat :=
  match a.body.exactSize? with
  | some n => some n
  | none => (a.headers.text? "content-length").bind fun t =>
      Decimal.unsigned? Decimal.max64 t.toList

/-- Whether bodies of a media type gain by compression: images other than
SVG, remote procedure calls and event streams do not. -/
def isCompressible (mediaType : String) : Bool :=
  let starts (lead : String) := (afterLead? lead.toList mediaType.toList).isSome
  (mediaType = "application/grpc-web" || !starts "application/grpc")
    && (mediaType = "image/svg+xml" || !starts "image/")
    && !starts "text/event-stream"

/-- **Whether a response may be compressed.** -/
def isEligible (a : Response) : Bool :=
  (match knownLength? a with
    | some n => worthwhile ≤ n
    | none => true)
    && isCompressible ((a.headers.text? "content-type").getD "")
    && !a.headers.contains "content-encoding"
    && !a.headers.contains "content-range"

/-- Whether a `Vary` value names `Accept-Encoding` somewhere. -/
def namesAcceptEncoding (value : Bytes) : Bool :=
  hasPart "accept-encoding".toList (value.latin1.toList.map Char.toLower)

/-- The headers of an eligible response, which varies with the encodings
that its client accepts. -/
def markVarying (h : Headers) : Headers :=
  if (h.values "vary").any namesAcceptEncoding then h
  else h.append "vary" (Bytes.ofString "accept-encoding")

/-- The compressed form of a response. -/
def compress (a : Response) : Response where
  status := a.status
  headers := ((a.headers.erase "accept-ranges").erase "content-length").insert
    "content-encoding" (Bytes.ofString "gzip")
  body := { a.body with data := Gzip.encode a.body.data, sized := false }

/-- **Compresses** eligible responses for clients that prefer it. -/
def compression {m : Type → Type} [Monad m] (next : Handler m) : Handler m :=
  fun r => do
    let a ← next r
    if isEligible a then
      let a := { a with headers := markVarying a.headers }
      match Coding.preferred r.headers with
      | .gzip => return compress a
      | .identity => return a
    else return a

end Gatehouse.Chain
