import FieldCalc.Calendar.Date
import FieldCalc.Text.Blank
import FieldCalc.Text.Reader

/-!
# Texts of dates

Three forms of text have a date: a plain date, a timestamp with an offset from universal time, and
a date with a time of day.  The first form that fits the whole text counts, and the date is the one
written, whatever the time and the offset.  In the plain forms parts may lack leading zeros, blanks
may stand before a number, and a signed year may have any number of digits; a timestamp with an
offset has every digit in its place.
-/

namespace FieldCalc

namespace DateText

open Text (Reader)

/-- Blanks and then a number of at most `width` digits. -/
def spacedNumber (width : Nat) : Reader Nat := fun cs =>
  Reader.numberUpTo width (cs.dropWhile Text.isBlank)

/-- Blanks and then a year: four digits at most, or any number of them behind a sign. -/
def spacedYear : Reader Int := fun cs =>
  match cs.dropWhile Text.isBlank with
  | '-' :: cs => (Reader.digits cs).map fun (ds, cs) => (-(Reader.digitsValue ds : Int), cs)
  | '+' :: cs => (Reader.digits cs).map fun (ds, cs) => ((Reader.digitsValue ds : Int), cs)
  | cs => (Reader.numberUpTo 4 cs).map fun (n, cs) => ((n : Int), cs)

/-- A year of four digits. -/
def fixedYear : Reader Int := fun cs =>
  (Reader.numberOf 4 cs).map fun (n, cs) => ((n : Int), cs)

/-- A date as `YYYY-MM-DD`, whose parts are read as given. -/
def date (year : Reader Int) (part : Reader Nat) : Reader Date := fun cs => do
  let (year, cs) ← year cs
  let (_, cs) ← Reader.char '-' cs
  let (month, cs) ← part cs
  let (_, cs) ← Reader.char '-' cs
  let (day, cs) ← part cs
  let date ← Date.of? year month day
  return (date, cs)

/-- A date, loosely. -/
def looseDate : Reader Date := date spacedYear (spacedNumber 2)

/-- A date with every part in its fixed width. -/
def strictDate : Reader Date := date fixedYear (Reader.numberOf 2)

/-- A fraction of a second, if there is a point. -/
def fraction : Reader Unit
  | '.' :: cs => (Reader.digits cs).map fun (_, cs) => ((), cs)
  | cs => some ((), cs)

/-- Whether the parts are a time of day; a sixtieth second is a leap second. -/
def isTime (hour minute second : Nat) : Bool :=
  decide (hour ≤ 23) && decide (minute ≤ 59) && decide (second ≤ 60)

/-- A time of day as `HH:MM:SS` with an optional fraction, whose parts are read as given. -/
def time (part : Reader Nat) : Reader Unit := fun cs => do
  let (hour, cs) ← part cs
  let (_, cs) ← Reader.char ':' cs
  let (minute, cs) ← part cs
  let (_, cs) ← Reader.char ':' cs
  let (second, cs) ← part cs
  let (_, cs) ← fraction cs
  if isTime hour minute second then return ((), cs) else none

/-- A time of day, loosely. -/
def looseTime : Reader Unit := time (spacedNumber 2)

/-- A time of day with every part in its fixed width. -/
def strictTime : Reader Unit := time (Reader.numberOf 2)

/-- A date, a separator and a time of day. -/
def looseTimestamp (separator : Reader Unit) : Reader Date := fun cs => do
  let (date, cs) ← looseDate cs
  let (_, cs) ← separator cs
  let (_, cs) ← looseTime cs
  return (date, cs)

/-- An offset from universal time: `Z`, or `HH:MM` below a day behind one of the given signs. -/
def offset (signs : List Char) : Reader Unit
  | [] => none
  | c :: cs =>
    if c = 'Z' ∨ c = 'z' then some ((), cs)
    else if signs.contains c then do
      let (hours, cs) ← Reader.numberOf 2 cs
      let (_, cs) ← Reader.char ':' cs
      let (minutes, cs) ← Reader.numberOf 2 cs
      if hours ≤ 23 ∧ minutes ≤ 59 then return ((), cs) else none
    else none

/-- The letter or the space between a date and a time of day. -/
def separator : Reader Unit
  | c :: cs => if c = 'T' ∨ c = 't' ∨ c = ' ' then some ((), cs) else none
  | [] => none

/-- A timestamp with an offset, every part in its fixed width. -/
def strictTimestamp : Reader Date := fun cs => do
  let (date, cs) ← strictDate cs
  let (_, cs) ← separator cs
  let (_, cs) ← strictTime cs
  let (_, cs) ← offset ['+', '-', '−'] cs
  return (date, cs)

/-- Any run of blanks, also an empty one. -/
def blanks : Reader Unit := fun cs => some ((), cs.dropWhile Text.isBlank)

/-- The date that a text has, blanks around it aside. -/
def read? (s : String) : Option Date :=
  let cs := Text.trimChars s.toList
  [looseDate, strictTimestamp, looseTimestamp (Reader.char 'T'), looseTimestamp blanks].findSome?
    fun form => form.all? cs

end DateText

end FieldCalc
