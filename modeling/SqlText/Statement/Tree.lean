import SqlText.Column
import SqlText.Placeholder.Markup

/-!
# The parts of statements

Conditions, their operands and the queries inside them refer to each other, so
they are defined together.  Nothing is checked when they are put together: shapes
are checked when a statement is written, and steps that were refused are
remembered until then.
-/

namespace SqlText

/-- The elements of an array operand, all of one type. -/
inductive Elements
  | strings (items : List String)
  | ints (items : List Int)
  | floats (items : List Numeric.Binary32)
  | doubles (items : List Numeric.Binary64)
  | bools (items : List Bool)
  | dates (items : List Calendar.DateTime)
  | parameters (items : List Parameter)
deriving DecidableEq

/-- The number of elements. -/
def Elements.length : Elements → Nat
  | strings items => items.length
  | ints items => items.length
  | floats items => items.length
  | doubles items => items.length
  | bools items => items.length
  | dates items => items.length
  | parameters items => items.length

mutual

/-- One side of a condition, a column of a query's result, or a value to be
stored. -/
inductive Operand
  /-- A condition inside another one. -/
  | clause (clause : Clause)
  | value (value : Value)
  | array (elements : Elements)
  | column (column : Column)
  | expression (expression : ColumnExpression)
  | parameter (parameter : Parameter)
  | query (select : Select)
  /-- Any row of a query. -/
  | any (select : Select)
  /-- Every row of a query. -/
  | all (select : Select)

/-- A condition: an operator with the operands that it was given. -/
structure Clause where
  condition : Condition
  left? : Option Operand
  right? : Option Operand

/-- A query.  Without columns it asks for all of them. -/
structure Select where
  table : Table
  columns : List Operand
  distinct : Bool
  groupBy : List Column
  having? : Option Clause
  slots : Slots

/-- The parts that a statement of nearly any kind may have, and its refused steps.
No tables means that it has no `WITH` clause. -/
structure Slots where
  filter? : Option Clause
  suffix? : Option String
  withTables : List WithTable
  problems : List Problem

/-- A query under a name, for use in the statement that it precedes. -/
structure WithTable where
  name : String
  select : Select

end

/-! ## Operands -/

namespace Operand

/-- The elements of an array operand. -/
def elements? : Operand → Option Elements
  | array elements => some elements
  | _ => none

/-- Whether an operand is an array. -/
def isArray (operand : Operand) : Bool :=
  operand.elements?.isSome

/-- The number of elements of an array operand. -/
def arrayLength? (operand : Operand) : Option Nat :=
  operand.elements?.map Elements.length

end Operand

/-- The elements of an array as operands of their own. -/
def Elements.operands : Elements → List Operand
  | strings items => items.map fun item => .value (.string item)
  | ints items => items.map fun item => .value (.int item)
  | floats items => items.map fun item => .value (.float item)
  | doubles items => items.map fun item => .value (.double item)
  | bools items => items.map fun item => .value (.bool item)
  | dates items => items.map fun item => .value (.date item)
  | parameters items => items.map .parameter

/-! ## Conditions -/

namespace Clause

/-- A condition with both operands. -/
def binary (left : Operand) (condition : Condition) (right : Operand) : Clause :=
  ⟨condition, some left, some right⟩

/-- Both conditions hold. -/
def and (left right : Clause) : Clause :=
  binary (.clause left) .and (.clause right)

/-- One of the conditions holds. -/
def or (left right : Clause) : Clause :=
  binary (.clause left) .or (.clause right)

/-- A query has a row. -/
def rowExists (select : Select) : Clause :=
  ⟨.rowExists, none, some (.query select)⟩

/-- A query has no row. -/
def noRowExists (select : Select) : Clause :=
  ⟨.noRowExists, none, some (.query select)⟩

/-- An operand is null. -/
def isNull (operand : Operand) : Clause :=
  ⟨.isNull, some operand, none⟩

/-- An operand is not null. -/
def isNotNull (operand : Operand) : Clause :=
  ⟨.isNotNull, some operand, none⟩

/-- All of the conditions hold, taken together from the left.  There is no such
condition for an empty list. -/
def all? : List Clause → Option Clause
  | [] => none
  | first :: rest => some (rest.foldl and first)

/-- One of the conditions holds, taken together from the left.  There is no such
condition for an empty list. -/
def any? : List Clause → Option Clause
  | [] => none
  | first :: rest => some (rest.foldl or first)

end Clause

/-! ## Slots -/

namespace Slots

/-- No parts and no refused steps. -/
def empty : Slots := ⟨none, none, [], []⟩

/-- Remembers a refused step. -/
def refuse (slots : Slots) (problem : Problem) : Slots :=
  { slots with problems := slots.problems ++ [problem] }

/-- Fills the filter, once. -/
def setFilter (slots : Slots) (clause : Clause) : Slots :=
  match slots.filter? with
  | none => { slots with filter? := some clause }
  | some _ => slots.refuse .secondFilter

/-- Fills the suffix, once. -/
def setSuffix (slots : Slots) (suffix : String) : Slots :=
  match slots.suffix? with
  | none => { slots with suffix? := some suffix }
  | some _ => slots.refuse .secondSuffix

/-- Fills the `WITH` clause, once and with at least one table. -/
def setWith (slots : Slots) (tables : List WithTable) : Slots :=
  match slots.withTables, tables with
  | _ :: _, _ => slots.refuse .secondWith
  | [], [] => slots.refuse .emptyWith
  | [], _ :: _ => { slots with withTables := tables }

end Slots

/-- A query of a table, as yet without any parts. -/
def Select.of (table : Table) : Select :=
  ⟨table, [], false, [], none, .empty⟩

end SqlText
