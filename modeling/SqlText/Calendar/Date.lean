/-!
# Calendar dates

Dates of the Gregorian calendar, extended to all years before and after its
introduction.  Year `0` is the year before year `1`.  Besides the parts of a date
this file derives its weekday, its day and week of the year and its distance in
days from 1970-01-01.
-/

namespace SqlText.Calendar

/-- Every fourth year is a leap year, except every hundredth, except every four
hundredth. -/
def isLeapYear (year : Int) : Bool :=
  year % 4 == 0 && (year % 100 != 0 || year % 400 == 0)

/-- The number of days of a year. -/
def daysInYear (year : Int) : Nat :=
  if isLeapYear year then 366 else 365

/-- The number of days of a month. -/
def daysInMonth (year : Int) (month : Nat) : Nat :=
  if month = 2 then (if isLeapYear year then 29 else 28)
  else if month = 4 ∨ month = 6 ∨ month = 9 ∨ month = 11 then 30
  else 31

/-- A day of the calendar. -/
structure Date where
  year : Int
  month : Nat
  day : Nat
  month_valid : 1 ≤ month ∧ month ≤ 12
  day_valid : 1 ≤ day ∧ day ≤ daysInMonth year month
deriving DecidableEq

namespace Date

/-- The date with the given parts, if there is one. -/
def of? (year : Int) (month day : Nat) : Option Date :=
  if hmonth : 1 ≤ month ∧ month ≤ 12 then
    if hday : 1 ≤ day ∧ day ≤ daysInMonth year month then
      some ⟨year, month, day, hmonth, hday⟩
    else none
  else none

/-- The day of the year, from `1`. -/
def dayOfYear (date : Date) : Nat :=
  (List.range (date.month - 1)).foldl
    (fun total earlier => total + daysInMonth date.year (earlier + 1)) date.day

/-- The days from the first day of year `1`, counted as day `1`. -/
def dayNumber (date : Date) : Int :=
  let past := date.year - 1
  365 * past + past / 4 - past / 100 + past / 400 + date.dayOfYear

/-- The days from 1970-01-01. -/
def daysSince1970 (date : Date) : Int :=
  date.dayNumber - 719163

/-- The days since the last Monday, that day included. -/
def daysFromMonday (date : Date) : Nat :=
  ((date.dayNumber - 1) % 7).toNat

/-- The days since the last Sunday, that day included. -/
def daysFromSunday (date : Date) : Nat :=
  (date.dayNumber % 7).toNat

/-- The quarter of the year, from `1`. -/
def quarter (date : Date) : Nat :=
  (date.month - 1) / 3 + 1

/-- The week of the year when weeks start on Sunday and the days before the first
one are in week `0`. -/
def weekFromSunday (date : Date) : Nat :=
  (date.dayOfYear + 6 - date.daysFromSunday) / 7

/-- The week of the year when weeks start on Monday and the days before the first
one are in week `0`. -/
def weekFromMonday (date : Date) : Nat :=
  (date.dayOfYear + 6 - date.daysFromMonday) / 7

/-- A week that starts on Monday belongs to the year that holds its Thursday.
This is that year with the day of the year of the Thursday. -/
def thursday (date : Date) : Int × Int :=
  let day : Int := date.dayOfYear + 3 - date.daysFromMonday
  if day < 1 then (date.year - 1, day + daysInYear (date.year - 1))
  else if daysInYear date.year < day then (date.year + 1, day - daysInYear date.year)
  else (date.year, day)

/-- The year to which the date's week belongs. -/
def weekYear (date : Date) : Int :=
  date.thursday.1

/-- The number of the date's week in the year to which it belongs, from `1`. -/
def week (date : Date) : Int :=
  (date.thursday.2 - 1) / 7 + 1

end Date

end SqlText.Calendar
