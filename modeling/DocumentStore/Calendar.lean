import DocumentStore.Numeral

/-!
# Calendar

A point in time is a number of milliseconds since the beginning of 1970 in universal time. Days
are counted in the Gregorian calendar, which is continued into all years. Internally a year runs
from March, so that the leap day is its last.
-/
namespace DocumentStore.Calendar

/-! ## Days -/

/-- The year, month and day of a day counted from the beginning of 1970. -/
def dateOf (day : Int) : Int × Int × Int :=
  let shifted := day + 719468
  let era := shifted.fdiv 146097
  let dayOfEra := shifted.fmod 146097
  let yearOfEra :=
    (dayOfEra - dayOfEra / 1460 + dayOfEra / 36524 - dayOfEra / 146096) / 365
  let dayOfYear := dayOfEra - (365 * yearOfEra + yearOfEra / 4 - yearOfEra / 100)
  let month := (5 * dayOfYear + 2) / 153
  let dayOfMonth := dayOfYear - (153 * month + 2) / 5 + 1
  let month := if month < 10 then month + 3 else month - 9
  (yearOfEra + era * 400 + (if month ≤ 2 then 1 else 0), month, dayOfMonth)

/-- The number of a day, counted from the beginning of 1970. -/
def dayOf (year month day : Int) : Int :=
  let year := if month ≤ 2 then year - 1 else year
  let month := if month ≤ 2 then month + 9 else month - 3
  let era := year.fdiv 400
  let yearOfEra := year.fmod 400
  let dayOfYear := (153 * month + 2) / 5 + day - 1
  era * 146097 + 365 * yearOfEra + yearOfEra / 4 - yearOfEra / 100 + dayOfYear - 719468

/-- Every fourth year is a leap year, but of the full centuries only every fourth. -/
def isLeapYear (year : Int) : Bool :=
  year.fmod 4 == 0 && (year.fmod 100 != 0 || year.fmod 400 == 0)

def daysIn (year month : Int) : Int :=
  if month == 2 then (if isLeapYear year then 29 else 28)
  else if month == 4 || month == 6 || month == 9 || month == 11 then 30
  else 31

/-! ## Writing -/

/-- A point in time, to the millisecond. Years outside of four digits are written as the bare
count of milliseconds. -/
def text (millis : Int) : String :=
  let (year, month, day) := dateOf (millis.fdiv 86400000)
  if year < -9999 || 9999 < year then toString millis
  else
    let inDay := (millis.fmod 86400000).toNat
    let fraction :=
      ((Numeral.padded 3 (inDay % 1000)).toList.reverse.dropWhile (· == '0')).reverse
    let fraction := if fraction.isEmpty then "0" else String.ofList fraction
    (if year < 0 then "-" else "") ++ Numeral.padded 4 year.natAbs ++ "-"
      ++ Numeral.padded 2 month.toNat ++ "-" ++ Numeral.padded 2 day.toNat ++ " "
      ++ toString (inDay / 3600000) ++ ":" ++ Numeral.padded 2 (inDay / 60000 % 60) ++ ":"
      ++ Numeral.padded 2 (inDay / 1000 % 60) ++ "." ++ fraction ++ " +00:00:00"

/-! ## Reading -/

/-- Reads a certain character. -/
def expect (c : Char) : List Char → Option (List Char)
  | [] => none
  | d :: rest => if d == c then some rest else none

/-- Reads a date with hyphens, which must be a day of the calendar. -/
def readDate (text : List Char) : Option (Int × List Char) := do
  let (year, rest) ← Numeral.take? 4 text
  let (month, rest) ← Numeral.take? 2 (← expect '-' rest)
  let (day, rest) ← Numeral.take? 2 (← expect '-' rest)
  if 1 ≤ month && month ≤ 12 && 1 ≤ day && (day : Int) ≤ daysIn year month then
    return (dayOf year month day, rest)
  else none

/-- Reads a fraction of a second, if there is one, in nanoseconds. Further digits are dropped. -/
def readFraction : List Char → Option (Nat × List Char)
  | '.' :: rest => do
    let digits := rest.takeWhile Char.isDigit
    if digits.isEmpty then none
    else
      let n ← Numeral.natural? ((digits ++ List.replicate 9 '0').take 9)
      return (n, rest.dropWhile Char.isDigit)
  | rest => some (0, rest)

/-- Reads the distance to universal time, in minutes. -/
def readOffset : List Char → Option (Int × List Char)
  | [] => none
  | sign :: rest =>
    if sign == 'Z' || sign == 'z' then some (0, rest)
    else if sign == '+' || sign == '-' then do
      let (hours, rest) ← Numeral.take? 2 rest
      let (minutes, rest) ← Numeral.take? 2 (← expect ':' rest)
      if hours < 24 && minutes < 60 then
        let offset : Int := hours * 60 + minutes
        return (if sign == '-' then -offset else offset, rest)
      else none
    else none

/-- Whether a second is the last of a month in universal time. -/
def isLastOfMonth (seconds : Int) : Bool :=
  let (year, month, day) := dateOf (seconds.fdiv 86400)
  seconds.fmod 86400 == 86399 && day == daysIn year month

/-- Reads a date, any one ASCII character, a time of day and a distance to universal time, as
milliseconds. A fraction is cut toward the beginning of 1970. A sixtieth second is the last
nanosecond of the fifty-ninth, and is there at the end of a month only. -/
def read? (text : List Char) : Option Int := do
  let (day, rest) ← readDate text
  let (separator, rest) ← match rest with
    | c :: rest => some (c, rest)
    | [] => none
  let (hour, rest) ← Numeral.take? 2 rest
  let (minute, rest) ← Numeral.take? 2 (← expect ':' rest)
  let (second, rest) ← Numeral.take? 2 (← expect ':' rest)
  let (fraction, rest) ← readFraction rest
  let (offset, rest) ← readOffset rest
  if separator.toNat < 128 && hour < 24 && minute < 60 && second ≤ 60 && rest.isEmpty then
    let leap := second == 60
    let minutes : Int := (day * 24 + hour) * 60 + minute - offset
    let seconds : Int := minutes * 60 + (if leap then 59 else (second : Int))
    let fraction : Int := if leap then 999999999 else fraction
    if leap && !isLastOfMonth seconds then none
    else return (seconds * 1000000000 + fraction).tdiv 1000000
  else none

end DocumentStore.Calendar
