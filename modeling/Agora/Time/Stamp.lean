/-!
Moments of the calendar, in the zone of Greenwich: whole seconds since the start of 1970 and
nanoseconds, which reach a second further in a leap second. The written form is the date, the
letter T, the time of day with as many of 0, 3, 6 or 9 decimals as lose nothing, and the letter Z.
-/

set_option autoImplicit false

namespace Agora.Time

/-- A moment of the calendar. -/
structure Stamp where
  second : Int
  nano : Nat := 0
  deriving Repr, DecidableEq

/-- A day of the Gregorian calendar, carried backwards without end. -/
structure Date where
  year : Int
  month : Nat
  day : Nat
  deriving Repr, DecidableEq

def isLeapYear (year : Int) : Bool :=
  (year % 4 == 0 && year % 100 != 0) || year % 400 == 0

def daysInMonth (year : Int) (month : Nat) : Nat :=
  if month = 2 then (if isLeapYear year then 29 else 28)
  else if month = 4 ∨ month = 6 ∨ month = 9 ∨ month = 11 then 30
  else 31

namespace Date

def valid (d : Date) : Bool :=
  1 ≤ d.month && d.month ≤ 12 && 1 ≤ d.day && d.day ≤ daysInMonth d.year d.month

/-- Days from the start of 1970 to a date; years are counted from March so that a leap day is the
last of its year. -/
def toDays (d : Date) : Int :=
  let y : Int := if d.month ≤ 2 then d.year - 1 else d.year
  let era := y / 400
  let yearOfEra := y % 400
  let monthFromMarch := (d.month + 9) % 12
  let dayOfYear : Int := (153 * monthFromMarch + 2) / 5 + d.day - 1
  era * 146097 + (yearOfEra * 365 + yearOfEra / 4 - yearOfEra / 100 + dayOfYear) - 719468

/-- The date so many days after the start of 1970. -/
def ofDays (days : Int) : Date :=
  let z := days + 719468
  let era := z / 146097
  let dayOfEra := (z % 146097).toNat
  let yearOfEra := (dayOfEra - dayOfEra / 1460 + dayOfEra / 36524 - dayOfEra / 146096) / 365
  let dayOfYear := dayOfEra - (365 * yearOfEra + yearOfEra / 4 - yearOfEra / 100)
  let monthFromMarch := (5 * dayOfYear + 2) / 153
  let day := dayOfYear - (153 * monthFromMarch + 2) / 5 + 1
  let month := if monthFromMarch < 10 then monthFromMarch + 3 else monthFromMarch - 9
  let year := Int.ofNat yearOfEra + era * 400
  ⟨if month ≤ 2 then year + 1 else year, month, day⟩

end Date

def padded (width n : Nat) : String :=
  let digits := Nat.toDigits 10 n
  String.ofList (List.replicate (width - digits.length) '0' ++ digits)

/-- A year in four digits; outside 0 to 9999 its sign is written too. -/
def yearText (year : Int) : String :=
  if 0 ≤ year ∧ year ≤ 9999 then padded 4 year.toNat
  else if year < 0 then "-" ++ padded 4 (-year).toNat
  else "+" ++ padded 4 year.toNat

/-- The decimals of a second that lose nothing. -/
def fractionText (nano : Nat) : String :=
  if nano = 0 then ""
  else if nano % 1000000 = 0 then "." ++ padded 3 (nano / 1000000)
  else if nano % 1000 = 0 then "." ++ padded 6 (nano / 1000)
  else "." ++ padded 9 nano

namespace Stamp

def before (a b : Stamp) : Bool :=
  a.second < b.second || (a.second == b.second && a.nano < b.nano)

/-- A moment so many seconds later. -/
def plus (t : Stamp) (seconds : Int) : Stamp := { t with second := t.second + seconds }

def render (t : Stamp) : String :=
  let date := Date.ofDays (t.second / 86400)
  let clock := (t.second % 86400).toNat
  let leap := t.nano / 1000000000
  yearText date.year ++ "-" ++ padded 2 date.month ++ "-" ++ padded 2 date.day ++ "T" ++
    padded 2 (clock / 3600) ++ ":" ++ padded 2 (clock / 60 % 60) ++ ":" ++
    padded 2 (clock % 60 + leap) ++ fractionText (t.nano % 1000000000) ++ "Z"

/-- The first and the last year of the calendar. -/
def firstYear : Int := -262143

def lastYear : Int := 262142

/-- The moment is within the calendar. -/
def representable (t : Stamp) : Bool :=
  let year := (Date.ofDays (t.second / 86400)).year
  firstYear ≤ year && year ≤ lastYear

end Stamp

end Agora.Time
