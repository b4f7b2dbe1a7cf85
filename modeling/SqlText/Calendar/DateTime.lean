import SqlText.Calendar.Date

/-!
# Dates with a time of day

A time of day has nanoseconds.  A leap second is the time with second `59` and a
billion or more nanoseconds: it is shown as second `60`.
-/

namespace SqlText.Calendar

/-- A time of day. -/
structure TimeOfDay where
  hour : Nat
  minute : Nat
  second : Nat
  nanosecond : Nat
  hour_valid : hour < 24
  minute_valid : minute < 60
  second_valid : second < 60
  nanosecond_valid : nanosecond < 1000000000 ∨ second = 59 ∧ nanosecond < 2000000000
deriving DecidableEq

namespace TimeOfDay

/-- The time with the given parts, if there is one. -/
def of? (hour minute second nanosecond : Nat) : Option TimeOfDay :=
  if hhour : hour < 24 then
    if hminute : minute < 60 then
      if hsecond : second < 60 then
        if hnano : nanosecond < 1000000000 ∨ second = 59 ∧ nanosecond < 2000000000 then
          some ⟨hour, minute, second, nanosecond, hhour, hminute, hsecond, hnano⟩
        else none
      else none
    else none
  else none

/-- The second as it is shown: `60` in a leap second. -/
def shownSecond (time : TimeOfDay) : Nat :=
  time.second + time.nanosecond / 1000000000

/-- The nanoseconds since the start of the shown second. -/
def fraction (time : TimeOfDay) : Nat :=
  time.nanosecond % 1000000000

/-- The hour on a dial of twelve. -/
def hourOnDial (time : TimeOfDay) : Nat :=
  if time.hour % 12 = 0 then 12 else time.hour % 12

/-- Whether the time is noon or later. -/
def isAfternoon (time : TimeOfDay) : Bool :=
  12 ≤ time.hour

end TimeOfDay

/-- A date with a time of day, in no particular time zone. -/
structure DateTime where
  date : Date
  time : TimeOfDay
deriving DecidableEq

/-- The seconds from the start of 1970.  A leap second counts as the second
before it. -/
def DateTime.secondsSince1970 (moment : DateTime) : Int :=
  moment.date.daysSince1970 * 86400 + moment.time.hour * 3600 + moment.time.minute * 60 +
    moment.time.second

end SqlText.Calendar
