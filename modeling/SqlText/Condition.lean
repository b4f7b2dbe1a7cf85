/-!
# Operators of conditions

The operators from which conditions are built, their text, and how each of them
takes its operands: most stand between two, `EXISTS` stands before its only
operand and `IS NULL` after it.
-/

namespace SqlText

/-- An operator of a condition. -/
inductive Condition
  | equal
  | notEqual
  | less
  | lessOrEqual
  | greater
  | greaterOrEqual
  | like
  | notLike
  | inList
  | notInList
  | between
  | notBetween
  | isNull
  | isNotNull
  | rowExists
  | noRowExists
  | and
  | or
deriving DecidableEq, Repr

namespace Condition

/-- The text of an operator. -/
def text : Condition → String
  | equal => "="
  | notEqual => "<>"
  | less => "<"
  | lessOrEqual => "<="
  | greater => ">"
  | greaterOrEqual => ">="
  | like => "LIKE"
  | notLike => "NOT LIKE"
  | inList => "IN"
  | notInList => "NOT IN"
  | between => "BETWEEN"
  | notBetween => "NOT BETWEEN"
  | isNull => "IS NULL"
  | isNotNull => "IS NOT NULL"
  | rowExists => "EXISTS"
  | noRowExists => "NOT EXISTS"
  | and => "AND"
  | or => "OR"

/-- How an operator takes its operands. -/
inductive Form
  /-- It stands before its only operand. -/
  | before
  /-- It stands after its only operand. -/
  | after
  /-- It stands between two operands. -/
  | binary
  /-- It compares its left operand with the two elements of an array. -/
  | range
  /-- It looks for its left operand in an array or in the rows of a query.  When
  the array is empty there is nothing to look through, and the whole condition
  is the constant text `whenEmpty`. -/
  | membership (whenEmpty : String)
deriving DecidableEq, Repr

/-- The form of an operator. -/
def form : Condition → Form
  | rowExists | noRowExists => .before
  | isNull | isNotNull => .after
  | between | notBetween => .range
  | inList => .membership "1=0"
  | notInList => .membership "1=1"
  | _ => .binary

/-- Whether an operator takes no left operand. -/
def standsBefore (condition : Condition) : Bool :=
  condition.form == .before

/-- Whether an operator takes no right operand. -/
def standsAfter (condition : Condition) : Bool :=
  condition.form == .after

end Condition

end SqlText
