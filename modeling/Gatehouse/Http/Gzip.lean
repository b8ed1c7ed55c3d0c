import Gatehouse.Bytes

/-!
# Gzip members

A compressed body is one gzip member: a header of ten bytes, deflate blocks,
and the checksum and length of the data. The blocks are stored blocks,
which hold up to 65535 bytes as they are; every reader of the format
accepts them. `decode?` reads members of this kind back and checks length
and checksum.
-/

namespace Gatehouse.Http.Gzip

/-! ## Checksum -/

/-- One shift of the remainder by the reversed polynomial. -/
def crcShift (r : UInt32) : UInt32 :=
  if r &&& 1 == 1 then (r >>> 1) ^^^ 0xEDB88320 else r >>> 1

/-- The remainder after one more byte. -/
def crcByte (r : UInt32) (b : UInt8) : UInt32 :=
  let r := r ^^^ b.toUInt32
  let r := crcShift (crcShift (crcShift (crcShift r)))
  crcShift (crcShift (crcShift (crcShift r)))

/-- The checksum of a sequence of bytes. -/
def crc (b : Bytes) : UInt32 := b.foldl crcByte 0xFFFFFFFF ^^^ 0xFFFFFFFF

/-! ## Writing -/

/-- The header: the marks of the format, deflate, no flags, no time, an
unknown system. -/
def header : Bytes := [0x1f, 0x8b, 8, 0, 0, 0, 0, 0, 0, 255]

/-- The most bytes of a stored block. -/
def blockSize : Nat := 65535

/-- A stored block. -/
def block (final : Bool) (b : Bytes) : Bytes :=
  (if final then 1 else 0) :: Bytes.littleEndian b.length 2
    ++ Bytes.littleEndian (blockSize - b.length) 2 ++ b

/-- What is left behind a full block is shorter. -/
theorem length_drop_blockSize {b : Bytes} (h : ¬ b.length ≤ blockSize) :
    (b.drop blockSize).length < b.length := by
  rw [List.length_drop]
  have : 0 < blockSize := by decide
  omega

/-- The stored blocks of a sequence of bytes; the last one is marked. -/
def blocks (b : Bytes) : Bytes :=
  if b.length ≤ blockSize then block true b
  else
    block false (b.take blockSize) ++ blocks (b.drop blockSize)
termination_by b.length
decreasing_by exact length_drop_blockSize (by assumption)

/-- **The gzip member of a sequence of bytes.** -/
def encode (b : Bytes) : Bytes :=
  header ++ blocks b ++ Bytes.littleEndian (crc b).toNat 4
    ++ Bytes.littleEndian (b.length % 4294967296) 4

/-! ## Reading -/

/-- The number that two bytes write, the lesser one first. -/
def word (lo hi : UInt8) : Nat := lo.toNat + 256 * hi.toNat

/-- Reads stored blocks up to the one marked as the last; the answer has
the data and the bytes behind the blocks. -/
def unblock? (s : Bytes) : Option (Bytes × Bytes) :=
  match s with
  | flag :: a :: b :: c :: d :: rest =>
    let n := word a b
    if word c d + n = blockSize && n ≤ rest.length then
      if flag == 1 then some (rest.take n, rest.drop n)
      else if flag == 0 then
        (unblock? (rest.drop n)).map fun (data, after) =>
          (rest.take n ++ data, after)
      else none
    else none
  | _ => none
termination_by s.length
decreasing_by
  simp only [List.length_cons, List.length_drop]
  omega

/-- The data of a gzip member made of stored blocks. -/
def decode? (s : Bytes) : Option Bytes :=
  if s.take header.length = header then
    match unblock? (s.drop header.length) with
    | some (data, trailer) =>
      if trailer = Bytes.littleEndian (crc data).toNat 4
          ++ Bytes.littleEndian (data.length % 4294967296) 4 then
        some data
      else none
    | none => none
  else none

end Gatehouse.Http.Gzip
