/-!
# Dates

Dates of the proleptic Gregorian calendar, and the moment that formulas take as the present.
-/

namespace FieldCalc

/-- Every fourth year is a leap year, except the centuries that 400 does not divide. -/
def isLeapYear (year : Int) : Bool := year % 4 == 0 && (year % 100 != 0 || year % 400 == 0)

def daysInMonth (year : Int) (month : Nat) : Nat :=
  if month = 2 then if isLeapYear year then 29 else 28
  else if month = 4 ∨ month = 6 ∨ month = 9 ∨ month = 11 then 30
  else 31

/-- A day of the calendar. -/
structure Date where
  year : Int
  month : Nat
  day : Nat
  month_pos : 1 ≤ month
  month_le : month ≤ 12
  day_pos : 1 ≤ day
  day_le : day ≤ daysInMonth year month
deriving DecidableEq

namespace Date

/-- The years that dates are read in. -/
def yearInRange (year : Int) : Bool := decide (-262143 ≤ year) && decide (year ≤ 262142)

/-- The date with the given parts, if the calendar has it. -/
def of? (year : Int) (month day : Nat) : Option Date :=
  if h : 1 ≤ month ∧ month ≤ 12 ∧ 1 ≤ day ∧ day ≤ daysInMonth year month then
    if yearInRange year then some ⟨year, month, day, h.1, h.2.1, h.2.2.1, h.2.2.2⟩ else none
  else none

/-- The date a number of days after the first of January 1970. -/
def ofDayNumber (n : Int) : Int × Nat × Nat :=
  let z := n + 719468
  let era := z.fdiv 146097
  let dayOfEra := z - era * 146097
  let yearOfEra := (dayOfEra - dayOfEra / 1460 + dayOfEra / 36524 - dayOfEra / 146096) / 365
  let dayOfYear := dayOfEra - (365 * yearOfEra + yearOfEra / 4 - yearOfEra / 100)
  let shifted := (5 * dayOfYear + 2) / 153
  let day := dayOfYear - (153 * shifted + 2) / 5 + 1
  let month := if shifted < 10 then shifted + 3 else shifted - 9
  let year := yearOfEra + era * 400 + (if month ≤ 2 then 1 else 0)
  (year, month.toNat, day.toNat)

end Date

/-- The present, as a formula sees it: seconds since the start of 1970, and the offset of local
time from universal time in minutes. -/
structure Moment where
  seconds : Int
  offset : Int

namespace Moment

/-- A number in at least `width` digits. -/
def padded (width : Nat) (n : Nat) : String :=
  let ds := Nat.toDigits 10 n
  String.ofList (List.replicate (width - ds.length) '0' ++ ds)

/-- A year in four digits, with a sign outside the years 0 to 9999. -/
def yearText (year : Int) : String :=
  if year < 0 then "-" ++ padded 4 year.natAbs
  else if 9999 < year then "+" ++ padded 4 year.natAbs
  else padded 4 year.natAbs

/-- Seconds of local time since the start of 1970. -/
def localSeconds (m : Moment) : Int := m.seconds + m.offset * 60

/-- The local date as `YYYY-MM-DD`. -/
def dateText (m : Moment) : String :=
  let (year, month, day) := Date.ofDayNumber (m.localSeconds.fdiv 86400)
  yearText year ++ "-" ++ padded 2 month ++ "-" ++ padded 2 day

/-- The offset from universal time, `Z` where there is none. -/
def offsetText (m : Moment) : String :=
  if m.offset = 0 then "Z"
  else
    let n := m.offset.natAbs
    (if m.offset < 0 then "-" else "+") ++ padded 2 (n / 60) ++ ":" ++ padded 2 (n % 60)

/-- The local date and time to the second, with the offset. -/
def timestampText (m : Moment) : String :=
  let second := (m.localSeconds.fmod 86400).toNat
  m.dateText ++ "T" ++ padded 2 (second / 3600) ++ ":" ++ padded 2 (second / 60 % 60) ++ ":" ++
    padded 2 (second % 60) ++ m.offsetText

end Moment

end FieldCalc
