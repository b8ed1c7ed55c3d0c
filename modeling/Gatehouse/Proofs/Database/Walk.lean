import Gatehouse.Database.Basic
import Gatehouse.Proofs.Address.Carried

/-!
# Where a database files an address

A lookup walks down the search tree along the bits of an address. The two
forms of an IPv4 address end with the same 32 bits, so their walks differ
only in the node at which these are read. For the plain form that is the
node behind 96 zeros, found when the database was opened; for the form that
carries the address it is the node behind the lead `::ffff:0:0/96`
(`Database.carriedStart?`).

Nothing in the format makes the two one node. A database in which they are
(`Database.Aliased`) has one answer for both forms. A database whose tree has
nothing behind the lead has no record for any address in the second form,
whatever it knows about the first.
-/

namespace Gatehouse.Database

variable {data : ByteArray} {m : Metadata} {d : Database}

/-! ## Walks -/

/-- Who has left the nodes goes no further. -/
theorem walk_of_le {node : Nat} (h : m.nodeCount ≤ node) (bits : List Bool) :
    walk data m node bits = some node := by
  cases bits with
  | nil => rfl
  | cons bit bits => rw [walk, if_pos h]

/-- **A walk along two stretches** is the walk along the second from where
the first has led. -/
theorem walk_append (node : Nat) (bits more : List Bool) :
    walk data m node (bits ++ more) = (walk data m node bits).bind (walk data m · more) := by
  induction bits generalizing node with
  | nil => rfl
  | cons bit bits ih =>
    rw [List.cons_append, walk, walk]
    split
    · next hout => exact (walk_of_le hout more).symm
    · rw [Option.bind_assoc]
      exact congrArg _ (funext ih)

/-! ## Bits -/

/-- The bits of a number of two parts are those of the parts. -/
theorem bitsOf_append {w v hi lo : Nat} (h : lo < 2 ^ v) :
    bitsOf (w + v) (hi * 2 ^ v + lo) = bitsOf w hi ++ bitsOf v lo := by
  unfold bitsOf
  rw [List.range_add, List.map_append, List.map_map]
  congr 1
  · refine List.map_congr_left fun i hi' => ?_
    have hlt := List.mem_range.mp hi'
    rw [Nat.mul_comm, Nat.testBit_two_pow_mul_add _ h, if_neg (by omega)]
    congr 1
    omega
  · refine List.map_congr_left fun i hi' => ?_
    have hlt := List.mem_range.mp hi'
    show Nat.testBit _ (w + v - 1 - (w + i)) = _
    rw [Nat.mul_comm, Nat.testBit_two_pow_mul_add _ h, if_pos (by omega)]
    congr 1
    omega

/-! ## The two forms of an address -/

/-- The node at which the addresses behind the lead begin. -/
def carriedStart? (d : Database) : Option Nat :=
  walk d.data d.metadata 0 (bitsOf 96 0xffff)

/-- **Both forms lead to one part of the tree.** -/
def Aliased (d : Database) : Prop := d.carriedStart? = some d.ipv4Start

/-- The walk for the form that carries an address: along the lead, and on
along the bits of the address. -/
theorem leaf?_toMapped (ip : IPv4) :
    d.leaf? (.v6 ip.toMapped)
      = d.carriedStart?.bind (walk d.data d.metadata · (bitsOf 32 ip.toNat)) := by
  show walk d.data d.metadata 0 (bitsOf (96 + 32) ip.toMapped.toNat) = _
  rw [IPv4.toNat_toMapped, bitsOf_append ip.toNat_lt, walk_append]
  rfl

/-- **One part of the tree, one answer.** -/
theorem Aliased.lookup_toMapped (h : d.Aliased) (ip : IPv4) :
    d.lookup (.v6 ip.toMapped) = d.lookup (.v4 ip) := by
  have hleaf : d.leaf? (.v6 ip.toMapped) = d.leaf? (.v4 ip) := by
    rw [leaf?_toMapped, show d.carriedStart? = _ from h]
    rfl
  unfold lookup
  rw [hleaf]

/-- **Where the lead leads nowhere, there is no record** for the form that
carries an address. -/
theorem lookup_toMapped_of_nowhere (h : d.carriedStart? = some d.metadata.nodeCount)
    (ip : IPv4) : d.lookup (.v6 ip.toMapped) = .ok none := by
  have hleaf : d.leaf? (.v6 ip.toMapped) = some d.metadata.nodeCount := by
    rw [leaf?_toMapped, h]
    exact walk_of_le le_rfl _
  unfold lookup
  rw [hleaf]
  dsimp only
  rw [if_pos rfl]

end Gatehouse.Database
