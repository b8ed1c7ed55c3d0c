import Gatehouse.Http.Date
import Gatehouse.Report.Event

/-!
# Log lines

An event becomes one line, in one of two forms: an object for machines, or
words for people. Both begin with the moment of the event.
-/

namespace Gatehouse.LogLine

open Http Text

/-- A moment: whole seconds since the first of January 1970, and
nanoseconds. -/
structure Moment where
  seconds : Nat
  nanos : Nat
deriving DecidableEq, Inhabited

/-- A number with at least so many digits. -/
def padded (width n : Nat) : String :=
  let digits := Nat.toDigits 10 n
  String.ofList (List.replicate (width - digits.length) '0' ++ digits)

/-- A moment as text, to the microsecond. -/
def Moment.toText (t : Moment) : String :=
  let date := CalendarDay.ofDays (t.seconds / 86400)
  let time := t.seconds % 86400
  padded 4 date.year ++ "-" ++ padded 2 date.month ++ "-" ++ padded 2 date.day ++ "T"
    ++ padded 2 (time / 3600) ++ ":" ++ padded 2 (time % 3600 / 60) ++ ":"
    ++ padded 2 (time % 60) ++ "." ++ padded 6 (t.nanos / 1000) ++ "Z"

/-! ## For machines -/

/-- One character inside the quotes of an object. -/
def escaped (c : Char) : List Char :=
  if c = '"' then ['\\', '"']
  else if c = '\\' then ['\\', '\\']
  else if c = '\n' then ['\\', 'n']
  else if c = '\r' then ['\\', 'r']
  else if c = '\t' then ['\\', 't']
  else if c.toNat = 8 then ['\\', 'b']
  else if c.toNat = 12 then ['\\', 'f']
  else if c.toNat < 32 then ['\\', 'u'] ++ (padded 2 0).toList
    ++ (if c.toNat < 16 then ['0'] else []) ++ Nat.toDigits 16 c.toNat
  else [c]

/-- A text in the quotes of an object. -/
def inQuotes (s : String) : String :=
  String.ofList ('"' :: (s.toList.flatMap escaped ++ ['"']))

/-- Named values as an object. -/
def object (members : List (String × String)) : String :=
  "\x7b" ++ join "," (members.map fun (k, v) => inQuotes k ++ ":" ++ v) ++ "\x7d"

/-- A value in an object. -/
def valueText : FieldValue → String
  | .text s => inQuotes s
  | .number n => toString n
  | .flag b => toString b

/-- **The line of an event for machines.** -/
def json (t : Moment) (e : Event) : String :=
  let fields := ("message", inQuotes e.message) :: e.fields.map fun (k, v) => (k, valueText v)
  object [("timestamp", inQuotes t.toText), ("level", inQuotes e.level.name),
    ("fields", object fields), ("target", inQuotes e.target)]

/-! ## For people -/

/-- A value beside a message. -/
def wordText : FieldValue → String
  | .text s => s
  | .number n => toString n
  | .flag b => toString b

/-- A level, set to the right in five columns. -/
def levelColumn (l : Level) : String :=
  String.ofList (List.replicate (5 - l.name.length) ' ') ++ l.name

/-- **The line of an event for people.** -/
def pretty (t : Moment) (e : Event) : String :=
  join " " ([t.toText, levelColumn e.level, e.target ++ ":", e.message]
    ++ e.fields.map fun (k, v) => k ++ "=" ++ wordText v)

end Gatehouse.LogLine
