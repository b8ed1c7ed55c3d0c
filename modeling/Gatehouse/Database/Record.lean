import Gatehouse.Database.Value

/-!
# What values must look like

A record is a map from names to values, or an array of its members in their
order. The names that are known have a meaning, and so must fit; everything
under other names is free. A record in which one known member does not fit
is as unreadable as a broken file.

Two records are known here: the description of the database itself, and the
country record that addresses lead to.
-/

namespace Gatehouse.Database

/-- A known member of a record. -/
structure Field where
  name : String
  /-- Whether a value can be this member. -/
  fits : Value → Bool
  /-- Whether no record may be without it. -/
  required : Bool

namespace Value

/-- A text, which may also be written as its bytes. -/
def asText? : Value → Option String
  | .text s => some s
  | .bytes b => String.fromUTF8? b
  | _ => none

/-- A number that is not negative. -/
def asNatural? : Value → Option Nat
  | .natural n => some n
  | .integer n => if 0 ≤ n then some n.toNat else none
  | _ => none

/-- A text. -/
def isText (v : Value) : Bool := v.asText?.isSome

/-- A number of so many bits. -/
def isNatural (bits : Nat) (v : Value) : Bool :=
  v.asNatural?.any (fun n => decide (n < Nat.pow 2 bits))

/-- Yes or no. -/
def isBoolean : Value → Bool
  | .boolean _ => true
  | _ => false

/-- Texts by text. -/
def isDictionary : Value → Bool
  | .map members => members.all fun (k, v) => k.isText && v.isText
  | _ => false

/-- A list of texts. -/
def isTexts : Value → Bool
  | .array items => items.all isText
  | _ => false

/-- The known member that a key names, by its name or its number in the
order; `some none` is a key that names no known member, and keys of other
kinds spoil the record. -/
def fieldOf? (fields : List Field) : Value → Option (Option Field)
  | .text s => some (fields.find? (·.name = s))
  | .bytes b => some ((String.fromUTF8? b).bind fun s => fields.find? (·.name = s))
  | .natural n => some fields[n]?
  | _ => none

/-- The known members of a map, in the order of the map. -/
def namedMembers? (fields : List Field) :
    List (Value × Value) → Option (List (String × Value))
  | [] => some []
  | (k, v) :: rest => do
    let field ← fieldOf? fields k
    let others ← namedMembers? fields rest
    match field with
    | none => return others
    | some f =>
      if f.fits v && !others.any (fun m => m.1 = f.name) then
        return (f.name, v) :: others
      else none

/-- The known members of a record. -/
def members? (fields : List Field) : Value → Option (List (String × Value))
  | .map members => do
    let found ← namedMembers? fields members
    if fields.all (fun f => !f.required || found.any fun m => m.1 = f.name) then
      return found
    else none
  | .array items =>
    if fields.length ≤ items.length && (fields.zip items).all (fun (f, v) => f.fits v) then
      some ((fields.map (·.name)).zip items)
    else none
  | _ => none

/-- A record with the given members. -/
def isRecord (fields : List Field) (v : Value) : Bool := (v.members? fields).isSome

end Value

/-! ## The country record -/

/-- A member that a record may lack. -/
def optional (name : String) (fits : Value → Bool) : Field := ⟨name, fits, false⟩

/-- A member that no record lacks. -/
def needed (name : String) (fits : Value → Bool) : Field := ⟨name, fits, true⟩

def continentFields : List Field :=
  [optional "code" Value.isText,
   optional "geoname_id" (Value.isNatural 32),
   optional "names" Value.isDictionary]

def countryFields : List Field :=
  [optional "geoname_id" (Value.isNatural 32),
   optional "is_in_european_union" Value.isBoolean,
   optional "iso_code" Value.isText,
   optional "names" Value.isDictionary]

def representedFields : List Field :=
  countryFields ++ [optional "type" Value.isText]

def traitFields : List Field :=
  [optional "is_anonymous_proxy" Value.isBoolean,
   optional "is_anycast" Value.isBoolean,
   optional "is_satellite_provider" Value.isBoolean]

/-- The members of a country record. -/
def recordFields : List Field :=
  [optional "continent" (Value.isRecord continentFields),
   optional "country" (Value.isRecord countryFields),
   optional "registered_country" (Value.isRecord countryFields),
   optional "represented_country" (Value.isRecord representedFields),
   optional "traits" (Value.isRecord traitFields)]

/-- **The country code of a record**; it is empty in a record that has
none. -/
def countryCode? (record : Value) : Option String := do
  let members ← record.members? recordFields
  match members.lookup "country" with
  | none => return ""
  | some country =>
    let inner ← country.members? countryFields
    return ((inner.lookup "iso_code").bind Value.asText?).getD ""

/-! ## The description of the database -/

/-- What a database says about itself. -/
structure Metadata where
  databaseType : String
  buildEpoch : Nat
  /-- The version of the addresses that the search tree is made for. -/
  ipVersion : Nat
  nodeCount : Nat
  /-- The bits of one half of a node. -/
  recordSize : Nat
deriving DecidableEq, Inhabited

def metadataFields : List Field :=
  [needed "binary_format_major_version" (Value.isNatural 16),
   needed "binary_format_minor_version" (Value.isNatural 16),
   needed "build_epoch" (Value.isNatural 64),
   needed "database_type" Value.isText,
   needed "description" Value.isDictionary,
   needed "ip_version" (Value.isNatural 16),
   needed "languages" Value.isTexts,
   needed "node_count" (Value.isNatural 32),
   needed "record_size" (Value.isNatural 16)]

/-- The description that a value holds. -/
def Metadata.ofValue? (v : Value) : Option Metadata := do
  let members ← v.members? metadataFields
  let natural (name : String) : Option Nat :=
    (members.lookup name).bind Value.asNatural?
  return {
    databaseType := ← (members.lookup "database_type").bind Value.asText?
    buildEpoch := ← natural "build_epoch"
    ipVersion := ← natural "ip_version"
    nodeCount := ← natural "node_count"
    recordSize := ← natural "record_size" }

end Gatehouse.Database
