import Gatehouse.Text.Ascii
import Gatehouse.Text.Decimal
import Gatehouse.Toml.Value

/-!
# Numbers and points in time of a document

Everything that begins with a digit or a sign is one token: a date, a time,
a number with a fraction or an exponent, or a whole number. The token has to
be one of these as a whole. Whole numbers have 64 bits with a sign and may
be written in four bases; single underscores may stand between digits.
-/

namespace Gatehouse.Toml

open Gatehouse.Text

/-- Whether a character may stand in a number or a point in time. -/
def isTokenChar (c : Char) : Bool :=
  c.isAlphanum || c == '+' || c == '-' || c == '_' || c == '.' || c == ':'

/-! ## Digits -/

/-- The digits of a text in which single underscores separate digits. -/
def digits? (ok : Char → Bool) : List Char → Option (List Char)
  | [] => none
  | [c] => if ok c then some [c] else none
  | c :: '_' :: rest => if ok c then (digits? ok rest).map (c :: ·) else none
  | c :: rest => if ok c then (digits? ok rest).map (c :: ·) else none

/-- A whole number without its sign: a zero alone, or digits that begin with
another one. -/
def plainDigits? (s : List Char) : Option (List Char) := do
  let ds ← digits? Char.isDigit s
  guard (ds.length == 1 || ds.head? != some '0')
  return ds

/-- The sign of a number, and what follows it. -/
def signed (s : List Char) : Bool × List Char :=
  match s with
  | '-' :: rest => (true, rest)
  | '+' :: rest => (false, rest)
  | _ => (false, s)

/-- The number that digits of a base write. -/
def numberIn (base : Nat) (ds : List Char) : Nat :=
  ds.foldl (fun acc c => acc * base + (hexValue? c).getD 0) 0

/-- A number, if it fits into 64 bits with a sign. -/
def fitting? (n : Int) : Option Int :=
  if -9223372036854775808 ≤ n && n ≤ 9223372036854775807 then some n else none

/-- A whole number. -/
def integer? (s : List Char) : Option Int :=
  match s with
  | '0' :: 'x' :: rest => do fitting? (numberIn 16 (← digits? isHex rest))
  | '0' :: 'o' :: rest => do
    fitting? (numberIn 8 (← digits? (fun c => c.isDigit && c.toNat < 56) rest))
  | '0' :: 'b' :: rest => do
    fitting? (numberIn 2 (← digits? (fun c => c == '0' || c == '1') rest))
  | _ => do
    let (negative, rest) := signed s
    let n := numberIn 10 (← plainDigits? rest)
    fitting? (if negative then -(n : Int) else n)

/-! ## Numbers with fraction or exponent -/

/-- The parts of a number with fraction or exponent. -/
structure Decimal where
  negative : Bool
  /-- The digits before and behind the point as one number. -/
  mantissa : Nat
  /-- The power of ten that the number is multiplied with. -/
  exponent : Int

/-- The exponent behind its letter. -/
def exponent? (s : List Char) : Option Int := do
  let (negative, rest) := signed s
  let n := numberIn 10 (← digits? Char.isDigit rest)
  return if negative then -(n : Int) else n

/-- Whether a character begins an exponent. -/
def isExponentMark (c : Char) : Bool := c == 'e' || c == 'E'

/-- The digits of a fraction behind its point, and what follows it; without
a point there are no digits. -/
def fraction? : List Char → Option (List Char × List Char)
  | '.' :: s =>
    (digits? Char.isDigit (s.takeWhile (!isExponentMark ·))).map fun ds =>
      (ds, s.dropWhile (!isExponentMark ·))
  | s => some ([], s)

/-- A number with a fraction, an exponent, or both. -/
def decimal? (s : List Char) : Option Decimal := do
  let (negative, s) := signed s
  let isWhole (c : Char) : Bool := c != '.' && !isExponentMark c
  let whole ← plainDigits? (s.takeWhile isWhole)
  let rest := s.dropWhile isWhole
  guard !rest.isEmpty
  let (fraction, rest) ← fraction? rest
  let exponent ← if rest.isEmpty then some 0 else exponent? (rest.drop 1)
  return ⟨negative, numberIn 10 (whole ++ fraction), exponent - fraction.length⟩

/-- Whether a number is too large for a double: it is at least the largest
double and half a step. -/
def Decimal.overflows (d : Decimal) : Bool :=
  let bound := Nat.pow 2 1024 - Nat.pow 2 970
  let magnitude := (Nat.toDigits 10 d.mantissa).length + d.exponent
  if d.mantissa = 0 || magnitude < 300 then false
  else if magnitude > 310 then true
  else if d.exponent < 0 then
    decide (bound * Nat.pow 10 d.exponent.natAbs ≤ d.mantissa)
  else decide (bound ≤ d.mantissa * Nat.pow 10 d.exponent.natAbs)

/-- Whether a token is a number that is not whole: it has a fraction or an
exponent, or is infinite or undefined by name. -/
def isFloat (s : List Char) : Bool :=
  let (_, rest) := signed s
  rest == "inf".toList || rest == "nan".toList
    || match decimal? s with
      | some d => d.negative || !d.overflows
      | none => false

/-! ## Points in time -/

/-- A number of exactly two digits, in bounds. -/
def twoDigits? (low high : Nat) (a b : Char) : Option Nat := do
  let n ← Gatehouse.Decimal.digits? high [a, b]
  guard (low ≤ n)
  return n

/-- The days of a month. -/
def daysIn (year month : Nat) : Nat :=
  if month = 2 then
    if year % 4 = 0 && (year % 100 ≠ 0 || year % 400 = 0) then 29 else 28
  else if month = 4 || month = 6 || month = 9 || month = 11 then 30
  else 31

/-- What follows a date, if the text begins with one. -/
def afterDate? : List Char → Option (List Char)
  | y1 :: y2 :: y3 :: y4 :: '-' :: m1 :: m2 :: '-' :: d1 :: d2 :: rest => do
    let year ← Gatehouse.Decimal.digits? 9999 [y1, y2, y3, y4]
    let month ← twoDigits? 1 12 m1 m2
    let _ ← twoDigits? 1 (daysIn year month) d1 d2
    return rest
  | _ => none

/-- What follows a time, if the text begins with one. -/
def afterTime? : List Char → Option (List Char)
  | h1 :: h2 :: ':' :: m1 :: m2 :: ':' :: s1 :: s2 :: rest => do
    let _ ← twoDigits? 0 23 h1 h2
    let _ ← twoDigits? 0 59 m1 m2
    let _ ← twoDigits? 0 60 s1 s2
    match rest with
    | '.' :: fraction =>
      guard (fraction.head?.any Char.isDigit)
      return fraction.dropWhile Char.isDigit
    | _ => return rest
  | _ => none

/-- Whether a text is an offset from Greenwich, or empty. -/
def isOffset : List Char → Bool
  | [] => true
  | ['Z'] => true
  | ['z'] => true
  | [sign, h1, h2, ':', m1, m2] =>
    (sign == '+' || sign == '-') && (twoDigits? 0 23 h1 h2).isSome
      && (twoDigits? 0 59 m1 m2).isSome
  | _ => false

/-- Whether a text is a time with an optional offset. -/
def isClock (s : List Char) : Bool :=
  match afterTime? s with
  | some rest => isOffset rest
  | none => false

/-- Whether a text is a date, alone or with a time. -/
def isDate (s : List Char) : Bool :=
  match afterDate? s with
  | none => false
  | some [] => true
  | some (c :: rest) => (c == 'T' || c == 't') && isClock rest

/-- Whether a text is a date alone. -/
def isDay (s : List Char) : Bool := afterDate? s == some []

/-- Whether a token is a point in time. -/
def isDatetime (s : List Char) : Bool := isDate s || afterTime? s == some []

/-! ## Tokens -/

/-- The value of a token. -/
def ofToken? (s : List Char) : Option Value :=
  if isDatetime s then some .datetime
  else if isFloat s then some .float
  else (integer? s).map .integer

/-- **A number or a point in time.** The time of a date may follow it behind
a space. -/
def number : Reader Value := fun s => do
  let token := s.takeWhile isTokenChar
  let rest := s.dropWhile isTokenChar
  let v ← ofToken? token
  match rest with
  | ' ' :: more =>
    let clock := more.takeWhile isTokenChar
    if isDay token && isClock clock then
      return (.datetime, more.dropWhile isTokenChar)
    else return (v, rest)
  | _ => return (v, rest)

end Gatehouse.Toml
