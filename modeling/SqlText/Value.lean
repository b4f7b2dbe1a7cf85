import SqlText.Calendar.Format
import SqlText.Numeric.Shortest

/-!
# Values

The scalar values that a statement can hold and their plain literals.  A string
or a date stands between single quotes as it is: quotes inside it are not
doubled, and a text that does not come from a trusted place belongs into a
parameter.
-/

namespace SqlText

/-- A scalar value. -/
inductive Value
  | string (text : String)
  | int (number : Int)
  | float (number : Numeric.Binary32)
  | double (number : Numeric.Binary64)
  | bool (truth : Bool)
  | date (moment : Calendar.DateTime)
deriving DecidableEq

/-- A text between single quotes, as it is. -/
def singleQuoted (text : String) : String :=
  "'" ++ text ++ "'"

namespace Value

/-- The literal of a value in no particular dialect. -/
def literal : Value → String
  | string text => singleQuoted text
  | int number => toString number
  | float number => number.text
  | double number => number.text
  | bool true => "TRUE"
  | bool false => "FALSE"
  | date moment => singleQuoted moment.text

/-- Equality of values, in which floating-point numbers are compared as numbers. -/
def same : Value → Value → Bool
  | string text, string text' => text == text'
  | int number, int number' => number == number'
  | float number, float number' => number.same number'
  | double number, double number' => number.same number'
  | bool truth, bool truth' => truth == truth'
  | date moment, date moment' => moment == moment'
  | _, _ => false

end Value

end SqlText
