/-!
# Dates in headers

A date in a header is written in Greenwich time with English names, as in
`Tue, 14 Nov 2023 22:13:20 GMT`. It is computed from the seconds since the
first of January 1970 in the Gregorian calendar, whose years start in March
for the computation so that the leap day comes last.
-/

namespace Gatehouse.Http

/-- A day of the calendar. -/
structure CalendarDay where
  year : Nat
  month : Nat
  day : Nat
deriving DecidableEq, Inhabited

/-- The calendar day that lies `days` days after the first of January
1970. -/
def CalendarDay.ofDays (days : Nat) : CalendarDay :=
  let z := days + 719468
  let era := z / 146097
  let dayOfEra := z % 146097
  let yearOfEra :=
    (dayOfEra - dayOfEra / 1460 + dayOfEra / 36524 - dayOfEra / 146096) / 365
  let dayOfYear := dayOfEra - (365 * yearOfEra + yearOfEra / 4 - yearOfEra / 100)
  let shifted := (5 * dayOfYear + 2) / 153
  let day := dayOfYear - (153 * shifted + 2) / 5 + 1
  let month := if shifted < 10 then shifted + 3 else shifted - 9
  let year := yearOfEra + era * 400 + if month ≤ 2 then 1 else 0
  ⟨year, month, day⟩

/-- A number with at least two digits. -/
def twoDigits (n : Nat) : String :=
  if n < 10 then "0" ++ toString n else toString n

/-- The names of the days, from the weekday of the first of January
1970. -/
def weekdays : List String := ["Thu", "Fri", "Sat", "Sun", "Mon", "Tue", "Wed"]

/-- The names of the months. -/
def months : List String :=
  ["Jan", "Feb", "Mar", "Apr", "May", "Jun", "Jul", "Aug", "Sep", "Oct", "Nov",
    "Dec"]

/-- **The date of a number of seconds** since the first of January 1970. -/
def dateText (seconds : Nat) : String :=
  let days := seconds / 86400
  let time := seconds % 86400
  let date := CalendarDay.ofDays days
  weekdays.getD (days % 7) "" ++ ", " ++ twoDigits date.day ++ " "
    ++ months.getD (date.month - 1) "" ++ " " ++ toString date.year ++ " "
    ++ twoDigits (time / 3600) ++ ":" ++ twoDigits (time % 3600 / 60) ++ ":"
    ++ twoDigits (time % 60) ++ " GMT"

end Gatehouse.Http
