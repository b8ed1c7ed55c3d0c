/-!
# Bytes and the text they hold

Everything that crosses the network or lies in a file is a list of bytes.
Two readings of bytes as text matter here, and they are kept apart:

* `Bytes.text?` is the reading of a **header value**. It succeeds only when
  every byte is visible ASCII, a space or a tab, so a value that succeeds is
  the same text in every encoding.
* `Bytes.utf8?` is the reading of a **file**, and accepts whatever is
  well-formed UTF-8.
-/

namespace Gatehouse

/-- A sequence of bytes: a header value, a body, the contents of a file. -/
abbrev Bytes := List UInt8

namespace Bytes

/-- The UTF-8 encoding of a text. -/
def ofString (s : String) : Bytes :=
  s.toUTF8.toList

/-- The text that a sequence of bytes encodes in UTF-8, if it is
well formed. -/
def utf8? (b : Bytes) : Option String :=
  String.fromUTF8? (ByteArray.mk b.toArray)

/-- Whether a byte may stand in a header value that is read as text: a
visible ASCII character, a space or a tab. -/
def isTextByte (b : UInt8) : Bool :=
  (32 ≤ b.toNat && b.toNat < 127) || b.toNat == 9

/-- Each byte as the character of the same number. -/
def latin1 (b : Bytes) : String :=
  String.ofList (b.map fun x => Char.ofNat x.toNat)

/-- **A header value read as text**, which needs every byte to be a text
byte. -/
def text? (b : Bytes) : Option String :=
  if b.all isTextByte then some b.latin1 else none

theorem text?_eq_some_iff {b : Bytes} {s : String} :
    b.text? = some s ↔ b.all isTextByte = true ∧ b.latin1 = s := by
  unfold text?
  split
  · simp_all
  · next h => simp [h]

/-- The first `n` bytes read as an unsigned number, the most significant
byte first. -/
def bigEndian (b : Bytes) : Nat :=
  b.foldl (fun acc x => acc * 256 + x.toNat) 0

/-- The `count` bytes of `n`, the least significant byte first. -/
def littleEndian (n : Nat) : (count : Nat) → Bytes
  | 0 => []
  | count + 1 => UInt8.ofNat (n % 256) :: littleEndian (n / 256) count

theorem length_littleEndian (n count : Nat) :
    (littleEndian n count).length = count := by
  induction count generalizing n with
  | zero => rfl
  | succ count ih => simp [littleEndian, ih]

end Bytes

end Gatehouse
