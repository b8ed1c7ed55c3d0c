/-!
# Punycode

Labels of host names that hold characters beyond ASCII travel in ASCII: the
ASCII characters come first, and the others follow as a list of insertions,
each a number of base 36 with digits of variable weight. The weights adapt
to the numbers met so far, which keeps similar characters short.
-/

namespace Gatehouse.Url.Punycode

/-- The digit of a value below 36: letters first, then figures. -/
def digit (n : Nat) : Char :=
  if n < 26 then Char.ofNat (97 + n) else Char.ofNat (22 + n)

/-- The value of a digit, of either case. -/
def digitValue? (c : Char) : Option Nat :=
  if c.isLower then some (c.toNat - 97)
  else if c.isUpper then some (c.toNat - 65)
  else if c.isDigit then some (c.toNat - 22)
  else none

/-- The threshold of the digit at a position, counted in steps of 36, under
the present bias. -/
def threshold (position bias : Nat) : Nat :=
  if position ≤ bias then 1
  else if bias + 26 ≤ position then 26
  else position - bias

theorem threshold_pos (position bias : Nat) : 1 ≤ threshold position bias := by
  unfold threshold
  split
  · omega
  · split <;> omega

/-- Scales a delta down to the range of the bias; the answer has the steps
that were needed. -/
def scale (delta steps : Nat) : Nat × Nat :=
  if 455 < delta then scale (delta / 35) (steps + 36) else (delta, steps)
termination_by delta
decreasing_by exact Nat.div_lt_self (by omega) (by omega)

/-- The bias after a delta, when there are `count` characters. -/
def adapt (delta count : Nat) (first : Bool) : Nat :=
  let delta := if first then delta / 700 else delta / 2
  let (delta, steps) := scale (delta + delta / count) 0
  steps + 36 * delta / (delta + 38)

/-! ## Encoding -/

/-- The digits of a number under the present bias. -/
def writeNumber (bias position n : Nat) : List Char :=
  let t := threshold position bias
  if n < t then [digit n]
  else
    digit (t + (n - t) % (36 - t))
      :: writeNumber bias (position + 36) ((n - t) / (36 - t))
termination_by n
decreasing_by
  have := threshold_pos position bias
  have := Nat.div_le_self (n - threshold position bias)
    (36 - threshold position bias)
  omega

/-- What encoding keeps track of. -/
structure Coder where
  /-- What is written, the last character first. -/
  out : List Char
  delta : Nat
  bias : Nat
  /-- The number of characters that are dealt with. -/
  handled : Nat

/-- Passes one character while those of a code point are inserted. -/
def Coder.pass (basic code : Nat) (k : Coder) (c : Char) : Coder :=
  if c.toNat < code then { k with delta := k.delta + 1 }
  else if c.toNat = code then
    { out := (writeNumber k.bias 36 k.delta).reverse ++ k.out
      delta := 0
      bias := adapt k.delta (k.handled + 1) (k.handled == basic)
      handled := k.handled + 1 }
  else k

/-- Inserts the characters of each code point of a rising list. -/
def insertCodes (input : List Char) (basic : Nat) (next : Nat) (k : Coder) :
    List Nat → Coder
  | [] => k
  | code :: rest =>
    let k := { k with delta := k.delta + (code - next) * (k.handled + 1) }
    let k := input.foldl (Coder.pass basic code) k
    insertCodes input basic (code + 1) { k with delta := k.delta + 1 } rest

/-- **The encoding of a label**, without its mark. -/
def encode (s : List Char) : List Char :=
  let basic := s.filter (·.toNat < 128)
  let lead := if basic.isEmpty then [] else basic ++ ['-']
  let codes := (((s.map Char.toNat).filter (128 ≤ ·)).eraseDups).mergeSort
  (insertCodes s basic.length 128 ⟨lead.reverse, 0, 72, basic.length⟩ codes).out.reverse

/-! ## Decoding -/

/-- The largest number that decoding deals with. -/
def maxNumber : Nat := 4294967295

/-- Reads one number of variable weight: its value and the rest. -/
def readNumber? (bias : Nat) (position weight value : Nat) :
    List Char → Option (Nat × List Char)
  | [] => none
  | c :: rest =>
    match digitValue? c with
    | none => none
    | some d =>
      let value := value + d * weight
      let t := threshold position bias
      if value > maxNumber || weight > maxNumber then none
      else if d < t then some (value, rest)
      else readNumber? bias (position + 36) (weight * (36 - t)) value rest

/-- A number takes at least one character. -/
theorem length_readNumber? {bias position weight value v : Nat}
    {s rest : List Char}
    (h : readNumber? bias position weight value s = some (v, rest)) :
    rest.length < s.length := by
  induction s generalizing position weight value with
  | nil => cases h
  | cons c cs ih =>
    simp only [readNumber?] at h
    split at h
    · cases h
    · split at h
      · cases h
      · split at h
        · cases h; simp
        · exact Nat.lt_succ_of_lt (ih h)

/-- Carries out the insertions that a text lists. -/
def insertAll? (code index bias : Nat) (out s : List Char) : Option (List Char) :=
  if s.isEmpty then some out
  else match h : readNumber? bias 36 1 0 s with
    | none => none
    | some (delta, rest) =>
      have : rest.length < s.length := length_readNumber? h
      let count := out.length + 1
      let total := index + delta
      let code := code + total / count
      let place := total % count
      if total ≤ maxNumber && decide code.isValidChar then
        insertAll? code (place + 1) (adapt delta count (index == 0))
          (out.take place ++ Char.ofNat code :: out.drop place) rest
      else none
termination_by s.length

/-- **The text that a label encodes**, its mark aside. A hyphen that nothing
precedes has no meaning. -/
def decode? (s : List Char) : Option (List Char) :=
  let tail := (s.reverse.takeWhile (· != '-')).reverse
  let lead := s.take (s.length - tail.length - 1)
  if lead.isEmpty then insertAll? 128 0 72 [] s
  else insertAll? 128 0 72 lead tail

end Gatehouse.Url.Punycode
