import SqlText.Calendar.Padding

/-!
# Date patterns

A pattern is a text in which a percent sign introduces a directive, such as `%Y`
for the year; all other characters stand for themselves.  This file says what the
directives are and reads a text into the list of its items.  Reading fails as a
whole if a percent sign is not followed by a directive.

A directive that writes a single number may have its padding chosen by a
character after the percent sign: `-` for none, `_` for spaces, `0` for zeros.
-/

namespace SqlText.Calendar

/-- The numbers that a pattern can ask for. -/
inductive NumberField
  | year
  | century
  | yearOfCentury
  | quarter
  | month
  | day
  | daysFromSunday
  | weekdayFromMonday
  | weekFromSunday
  | weekFromMonday
  | weekYear
  | weekYearOfCentury
  | week
  | dayOfYear
  | hour
  | hourOnDial
  | minute
  | second
  | nanosecond
  | secondsSince1970
deriving DecidableEq, Repr

/-- The words and fractions that a pattern can ask for. -/
inductive TextField
  | shortMonth
  | longMonth
  | shortWeekday
  | longWeekday
  | upperHalfDay
  | lowerHalfDay
  /-- A point and as many digits as are exact. -/
  | fraction
  /-- A given number of digits, after a point or not. -/
  | fractionDigits (point : Bool) (digits : Nat)
deriving DecidableEq, Repr

/-- A piece of a pattern. -/
inductive Item
  | literal (c : Char)
  | number (field : NumberField) (padding : Padding)
  | text (field : TextField)
  /-- The offset or name of a time zone, which a date without a zone lacks. -/
  | zone
deriving DecidableEq, Repr

/-- The number that a directive of one letter writes, with its own padding. -/
def numberDirective? : Char → Option (NumberField × Padding)
  | 'Y' => some (.year, .zeros)
  | 'C' => some (.century, .zeros)
  | 'y' => some (.yearOfCentury, .zeros)
  | 'q' => some (.quarter, .zeros)
  | 'm' => some (.month, .zeros)
  | 'd' => some (.day, .zeros)
  | 'e' => some (.day, .spaces)
  | 'w' => some (.daysFromSunday, .zeros)
  | 'u' => some (.weekdayFromMonday, .zeros)
  | 'U' => some (.weekFromSunday, .zeros)
  | 'W' => some (.weekFromMonday, .zeros)
  | 'G' => some (.weekYear, .zeros)
  | 'g' => some (.weekYearOfCentury, .zeros)
  | 'V' => some (.week, .zeros)
  | 'j' => some (.dayOfYear, .zeros)
  | 'H' => some (.hour, .zeros)
  | 'k' => some (.hour, .spaces)
  | 'I' => some (.hourOnDial, .zeros)
  | 'l' => some (.hourOnDial, .spaces)
  | 'M' => some (.minute, .zeros)
  | 'S' => some (.second, .zeros)
  | 'f' => some (.nanosecond, .zeros)
  | 's' => some (.secondsSince1970, .none)
  | _ => none

/-- Month, day and year of the century, with slashes. -/
def slashedDate : List Item :=
  [.number .month .zeros, .literal '/', .number .day .zeros, .literal '/',
    .number .yearOfCentury .zeros]

/-- Hour, minute and second, with colons. -/
def clockTime : List Item :=
  [.number .hour .zeros, .literal ':', .number .minute .zeros, .literal ':',
    .number .second .zeros]

/-- What a directive of one letter other than a single number stands for. -/
def wordDirective? : Char → Option (List Item)
  | 'b' => some [.text .shortMonth]
  | 'h' => some [.text .shortMonth]
  | 'B' => some [.text .longMonth]
  | 'a' => some [.text .shortWeekday]
  | 'A' => some [.text .longWeekday]
  | 'p' => some [.text .upperHalfDay]
  | 'P' => some [.text .lowerHalfDay]
  | 'D' => some slashedDate
  | 'x' => some slashedDate
  | 'F' => some [.number .year .zeros, .literal '-', .number .month .zeros, .literal '-',
      .number .day .zeros]
  | 'v' => some [.number .day .spaces, .literal '-', .text .shortMonth, .literal '-',
      .number .year .zeros]
  | 'R' => some [.number .hour .zeros, .literal ':', .number .minute .zeros]
  | 'T' => some clockTime
  | 'X' => some clockTime
  | 'r' => some [.number .hourOnDial .zeros, .literal ':', .number .minute .zeros,
      .literal ':', .number .second .zeros, .literal ' ', .text .upperHalfDay]
  | 'c' => some ([.text .shortWeekday, .literal ' ', .text .shortMonth, .literal ' ',
      .number .day .spaces, .literal ' '] ++ clockTime ++
      [.literal ' ', .number .year .zeros])
  | 't' => some [.literal '\t']
  | 'n' => some [.literal '\n']
  | '%' => some [.literal '%']
  | 'Z' => some [.zone]
  | 'z' => some [.zone]
  | '+' => some [.zone]
  | _ => none

/-- What a directive of one letter stands for. -/
def directive? (c : Char) : Option (List Item) :=
  match numberDirective? c with
  | some (field, padding) => some [.number field padding]
  | none => wordDirective? c

/-- What a directive of one letter stands for when its padding is chosen. -/
def paddedDirective? (padding : Padding) (c : Char) : Option (List Item) :=
  (numberDirective? c).map fun found => [.number found.1 padding]

/-- A directive in front of a pattern that has been read. -/
def followedBy (front : Option (List Item)) (rest : Option (List Item)) :
    Option (List Item) :=
  front.bind fun items => rest.map (items ++ ·)

/-- Reads a pattern into its items. -/
def readItems? : List Char → Option (List Item)
  | [] => some []
  | '%' :: '-' :: c :: rest => followedBy (paddedDirective? .none c) (readItems? rest)
  | '%' :: '_' :: c :: rest => followedBy (paddedDirective? .spaces c) (readItems? rest)
  | '%' :: '0' :: c :: rest => followedBy (paddedDirective? .zeros c) (readItems? rest)
  | '%' :: '.' :: 'f' :: rest => followedBy (some [.text .fraction]) (readItems? rest)
  | '%' :: '.' :: '3' :: 'f' :: rest =>
      followedBy (some [.text (.fractionDigits true 3)]) (readItems? rest)
  | '%' :: '.' :: '6' :: 'f' :: rest =>
      followedBy (some [.text (.fractionDigits true 6)]) (readItems? rest)
  | '%' :: '.' :: '9' :: 'f' :: rest =>
      followedBy (some [.text (.fractionDigits true 9)]) (readItems? rest)
  | '%' :: '3' :: 'f' :: rest =>
      followedBy (some [.text (.fractionDigits false 3)]) (readItems? rest)
  | '%' :: '6' :: 'f' :: rest =>
      followedBy (some [.text (.fractionDigits false 6)]) (readItems? rest)
  | '%' :: '9' :: 'f' :: rest =>
      followedBy (some [.text (.fractionDigits false 9)]) (readItems? rest)
  | '%' :: ':' :: 'z' :: rest => followedBy (some [.zone]) (readItems? rest)
  | '%' :: ':' :: ':' :: 'z' :: rest => followedBy (some [.zone]) (readItems? rest)
  | '%' :: ':' :: ':' :: ':' :: 'z' :: rest => followedBy (some [.zone]) (readItems? rest)
  | '%' :: '#' :: 'z' :: rest => followedBy (some [.zone]) (readItems? rest)
  | '%' :: c :: rest => followedBy (directive? c) (readItems? rest)
  | ['%'] => none
  | c :: rest => followedBy (some [.literal c]) (readItems? rest)

/-- A pattern that has been read. -/
structure Pattern where
  items : List Item
deriving DecidableEq, Repr

/-- Reads a pattern from its text. -/
def Pattern.ofString? (text : String) : Option Pattern :=
  (readItems? text.toList).map Pattern.mk

end SqlText.Calendar
