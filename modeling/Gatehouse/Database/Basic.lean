import Gatehouse.Country.Filter
import Gatehouse.Database.Record
import Gatehouse.Text.Quoted

/-!
# Country databases

A database is a binary search tree over address bits in front of the
records that it leads to. Each node has two halves, one for each value of
the next bit; a half is the number of another node, or the number of nodes
itself where nothing is known, or lies beyond that and names a record.

The walk through the tree follows the bits of the address, so it ends with
them. In a tree for the sixth version of addresses, those of the fourth
version lie behind 96 zeros, and that part of the walk is done once, when
the database is opened.
-/

namespace Gatehouse

/-- **A country database.** -/
structure Database where
  /-- The path that it was read from. -/
  path : String
  data : ByteArray
  metadata : Database.Metadata
  /-- The node at which addresses of the fourth version begin. -/
  ipv4Start : Nat

namespace Database

/-- What stands in front of the description of a database. -/
def marker : List UInt8 :=
  [0xab, 0xcd, 0xef, 0x4d, 0x61, 0x78, 0x4d, 0x69, 0x6e, 0x64, 0x2e, 0x63, 0x6f, 0x6d]

/-- The bytes that separate the tree from the records. -/
def gap : Nat := 16

/-- Whether the marker stands at a place. -/
def markerAt (data : ByteArray) (place : Nat) : Bool :=
  (data.extract place (place + marker.length)).toList = marker

/-- The latest place of the marker before a place. -/
def lastMarker? (data : ByteArray) : Nat → Option Nat
  | 0 => none
  | place + 1 =>
    if markerAt data place then some place else lastMarker? data place

/-- The description in a file; it stands behind the last marker. -/
def metadata? (data : ByteArray) : Option Metadata := do
  let place ← lastMarker? data data.size
  let v ← Section.value? ⟨data, place + marker.length⟩ 0
  Metadata.ofValue? v

/-! ## The search tree -/

/-- One half of a node. Halves of 28 bits share the byte between them: the
first half has its upper four bits, the second its lower four. -/
def half? (data : ByteArray) (recordSize node : Nat) (second : Bool) : Option Nat :=
  let whole : Section := ⟨data, 0⟩
  let place := node * recordSize / 4
  let side := if second then 1 else 0
  match recordSize with
  | 24 => whole.number? (place + side * 3) 3
  | 28 => do
    let shared ← whole.number? (place + 3) 1
    let low ← whole.number? (place + side * 4) 3
    return (if second then shared % 16 else shared / 16) * 16777216 + low
  | 32 => whole.number? (place + side * 4) 4
  | _ => none

/-- **The walk through the tree** along bits, until it leaves the nodes. -/
def walk (data : ByteArray) (m : Metadata) : Nat → List Bool → Option Nat
  | node, [] => some node
  | node, bit :: bits =>
    if m.nodeCount ≤ node then some node
    else (half? data m.recordSize node bit).bind (walk data m · bits)

/-- A number as bits, the most significant first. -/
def bitsOf (width n : Nat) : List Bool :=
  (List.range width).map fun i => n.testBit (width - 1 - i)

/-- Where the walk for an address ends. -/
def leaf? (d : Database) : Address → Option Nat
  | .v4 ip => walk d.data d.metadata d.ipv4Start (bitsOf 32 ip.toNat)
  | .v6 ip => walk d.data d.metadata 0 (bitsOf 128 ip.toNat)

/-- The section of the records. -/
def records (d : Database) : Section :=
  ⟨d.data, d.metadata.nodeCount * d.metadata.recordSize / 4 + gap⟩

/-- The record that a leaf of the walk names. -/
def recordAt? (d : Database) (leaf : Nat) : Option Value :=
  if leaf < d.metadata.nodeCount + gap then none
  else d.records.value? (leaf - d.metadata.nodeCount - gap)

/-- **The country of an address.** -/
def lookup (d : Database) : Country.Lookup := fun a =>
  match d.leaf? a with
  | none => .error ⟨"the search tree is incomplete"⟩
  | some leaf =>
    if leaf = d.metadata.nodeCount then .ok none
    else match (d.recordAt? leaf).bind countryCode? with
      | none => .error ⟨"the record cannot be read"⟩
      | some code => .ok (some code)

/-! ## Opening -/

/-- The database in a file. -/
def ofFile? (path : String) (data : ByteArray) : Option Database := do
  let m ← metadata? data
  let start ← if m.ipVersion = 6 then walk data m 0 (List.replicate 96 false) else some 0
  return ⟨path, data, m, start⟩

/-- Why there is no database. -/
inductive OpenError where
  /-- No path is configured, and none of the usual ones leads to a file. -/
  | notFound (searched : List String)
  /-- There is no database at the path. -/
  | unusable (path : String)
deriving DecidableEq, Inhabited

/-- The text of a failure to open, up to its reason. -/
def OpenError.message : OpenError → String
  | .notFound searched =>
    "no geoip database found (searched " ++ Text.quoteList searched ++ ")"
  | .unusable path => "failed to open geoip database " ++ path

/-- The database as messages show it. -/
def toText (d : Database) : String :=
  "MaxMindCountryDb \x7b path: " ++ Text.quote d.path ++ ", .. \x7d"

end Database

end Gatehouse
