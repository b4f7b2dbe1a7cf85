import SqlText.Calendar.DateTime
import SqlText.Calendar.Pattern

/-!
# Dates as text

Two ways to write a date with its time of day: the plain form
`YYYY-MM-DD HH:MM:SS` with a fraction when there is one, and the form that a
pattern describes.  A pattern that asks for a time zone cannot be written, since
a date here has none.
-/

namespace SqlText.Calendar

/-- The names of the months. -/
def monthNames : List String :=
  ["January", "February", "March", "April", "May", "June", "July", "August",
    "September", "October", "November", "December"]

/-- The names of the days of the week, from Monday. -/
def weekdayNames : List String :=
  ["Monday", "Tuesday", "Wednesday", "Thursday", "Friday", "Saturday", "Sunday"]

/-- The first three letters of a name. -/
def abbreviated (name : String) : String :=
  String.ofList (name.toList.take 3)

/-- The name of the month of a date. -/
def Date.monthName (date : Date) : String :=
  monthNames.getD (date.month - 1) ""

/-- The name of the day of the week of a date. -/
def Date.weekdayName (date : Date) : String :=
  weekdayNames.getD date.daysFromMonday ""

namespace DateTime

/-- The plain text of a date. -/
def text (moment : DateTime) : String :=
  yearColumn .zeros moment.date.year ++ "-" ++ column 2 .zeros moment.date.month ++ "-" ++
    column 2 .zeros moment.date.day ++ " " ++ column 2 .zeros moment.time.hour ++ ":" ++
    column 2 .zeros moment.time.minute ++ ":" ++ column 2 .zeros moment.time.shownSecond ++
    fractionText moment.time.fraction

/-- A number of a date, padded as chosen. -/
def numberText (moment : DateTime) (field : NumberField) (padding : Padding) : String :=
  let date := moment.date
  let time := moment.time
  match field with
  | .year => yearColumn padding date.year
  | .century => column 2 padding (date.year / 100)
  | .yearOfCentury => column 2 padding (date.year % 100)
  | .quarter => column 1 padding date.quarter
  | .month => column 2 padding date.month
  | .day => column 2 padding date.day
  | .daysFromSunday => column 1 padding date.daysFromSunday
  | .weekdayFromMonday => column 1 padding (date.daysFromMonday + 1)
  | .weekFromSunday => column 2 padding date.weekFromSunday
  | .weekFromMonday => column 2 padding date.weekFromMonday
  | .weekYear => yearColumn padding date.weekYear
  | .weekYearOfCentury => column 2 padding (date.weekYear % 100)
  | .week => column 2 padding date.week
  | .dayOfYear => column 3 padding date.dayOfYear
  | .hour => column 2 padding time.hour
  | .hourOnDial => column 2 padding time.hourOnDial
  | .minute => column 2 padding time.minute
  | .second => column 2 padding time.shownSecond
  | .nanosecond => column 9 padding time.fraction
  | .secondsSince1970 => column 9 padding moment.secondsSince1970

/-- A word or a fraction of a date. -/
def fieldText (moment : DateTime) : TextField → String
  | .shortMonth => abbreviated moment.date.monthName
  | .longMonth => moment.date.monthName
  | .shortWeekday => abbreviated moment.date.weekdayName
  | .longWeekday => moment.date.weekdayName
  | .upperHalfDay => if moment.time.isAfternoon then "PM" else "AM"
  | .lowerHalfDay => if moment.time.isAfternoon then "pm" else "am"
  | .fraction => fractionText moment.time.fraction
  | .fractionDigits point digits =>
      (if point then "." else "") ++ Calendar.fractionDigits digits moment.time.fraction

/-- The text of one item of a pattern, unless it asks for a time zone. -/
def itemText? (moment : DateTime) : Item → Option String
  | .literal c => some (String.singleton c)
  | .number field padding => some (moment.numberText field padding)
  | .text field => some (moment.fieldText field)
  | .zone => none

/-- A date as a pattern describes it, unless the pattern asks for a time zone. -/
def format? (moment : DateTime) (pattern : Pattern) : Option String :=
  (pattern.items.mapM moment.itemText?).map String.join

end DateTime

end SqlText.Calendar
