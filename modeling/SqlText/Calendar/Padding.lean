/-!
# Numbers in columns

A number in a date is written in a column of a given width, filled with zeros or
spaces in front, or in as few characters as it needs.  A year that does not have
four digits is written with its sign, and its column is one wider.
-/

namespace SqlText.Calendar

/-- What fills a column in front of a number. -/
inductive Padding
  | zeros
  | spaces
  | none
deriving DecidableEq, Repr

/-- A text repeated a number of times. -/
def repeated (c : Char) (count : Nat) : String :=
  String.ofList (List.replicate count c)

/-- A number with the given text as its sign, in a column of `width` characters,
sign included.  Zeros go after the sign and spaces before it. -/
def padded (width : Nat) (padding : Padding) (sign : String) (magnitude : Nat) : String :=
  let digits := toString magnitude
  let missing := width - (sign.length + digits.length)
  match padding with
  | .zeros => sign ++ repeated '0' missing ++ digits
  | .spaces => repeated ' ' missing ++ sign ++ digits
  | .none => sign ++ digits

/-- A number with a minus sign if it is negative. -/
def column (width : Nat) (padding : Padding) (n : Int) : String :=
  padded width padding (if n < 0 then "-" else "") n.natAbs

/-- A year in a column of four characters, or of five with a sign if it does not
have at most four digits. -/
def yearColumn (padding : Padding) (year : Int) : String :=
  if 0 ≤ year ∧ year < 10000 then column 4 padding year
  else padded 5 padding (if year < 0 then "-" else "+") year.natAbs

/-- The first `digits` of the nine digits of a fraction of a second. -/
def fractionDigits (digits nanoseconds : Nat) : String :=
  column digits .zeros (nanoseconds / Nat.pow 10 (9 - digits))

/-- A fraction of a second after a point with three, six or nine digits, whichever
is the first to be exact, and nothing if the fraction is zero. -/
def fractionText (nanoseconds : Nat) : String :=
  if nanoseconds = 0 then ""
  else if nanoseconds % 1000000 = 0 then "." ++ fractionDigits 3 nanoseconds
  else if nanoseconds % 1000 = 0 then "." ++ fractionDigits 6 nanoseconds
  else "." ++ fractionDigits 9 nanoseconds

end SqlText.Calendar
