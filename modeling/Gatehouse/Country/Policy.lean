import Gatehouse.Text.Ascii
import Gatehouse.Text.Blank
import Gatehouse.Text.Quoted

/-!
# Country policies

Two lists of country codes are configured, and one policy comes out of
them. An allow list with at least one entry decides alone; the block list
counts only when the allow list is blank. Entries are trimmed, put into
capitals and kept as a sorted set, so order, case, padding and repetition
in the configuration do not matter.
-/

namespace Gatehouse.Country

open Text

/-- Puts a code into a sorted list of codes, once. -/
def insertCode (code : String) : List String → List String
  | [] => [code]
  | c :: cs =>
    match compareCodes code.toList c.toList with
    | .lt => code :: c :: cs
    | .eq => c :: cs
    | .gt => c :: insertCode code cs

/-- **The set of codes of a configured list**: trimmed, in capitals,
without blank entries, sorted and each once. -/
def codeSet (entries : List String) : List String :=
  ((entries.map fun e => upper (trim e)).filter (· ≠ "")).foldl
    (fun set code => insertCode code set) []

/-- Which configured list turned a country away. -/
inductive PolicyList where
  | allow
  | block
deriving DecidableEq, Inhabited

/-- What countries may pass. -/
inductive Policy where
  /-- Every country passes. -/
  | unrestricted
  /-- Only the listed countries pass. -/
  | allowOnly (codes : List String)
  /-- All but the listed countries pass. -/
  | blockOnly (codes : List String)
deriving DecidableEq, Inhabited

namespace Policy

/-- **The policy of two configured lists.** The first list with an entry
decides. -/
def ofLists (allow block : List String) : Policy :=
  if codeSet allow ≠ [] then .allowOnly (codeSet allow)
  else if codeSet block ≠ [] then .blockOnly (codeSet block)
  else .unrestricted

/-- Whether a set of codes has a country, in any case of letters. The empty
country is in no set. -/
def lists (codes : List String) (country : String) : Bool :=
  country ≠ "" && codes.contains (upper country)

/-- The list that turns a country away, if one does. -/
def rejects (p : Policy) (country : String) : Option PolicyList :=
  match p with
  | .unrestricted => none
  | .allowOnly codes => if lists codes country then none else some .allow
  | .blockOnly codes => if lists codes country then some .block else none

/-- The codes behind the policy, sorted. -/
def countries : Policy → List String
  | .unrestricted => []
  | .allowOnly codes => codes
  | .blockOnly codes => codes

/-- The policy as messages show it. -/
def toText : Policy → String
  | .unrestricted => "NoFilter"
  | .allowOnly codes => "AllowOnly(" ++ quoteSet codes ++ ")"
  | .blockOnly codes => "BlockOnly(" ++ quoteSet codes ++ ")"

end Policy

end Gatehouse.Country
