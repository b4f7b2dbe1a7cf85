import SqlText.Statement.Basic

/-!
# Equality of statements

Two statements are the same when they were described by the same parts, refused
steps included.  Floating-point numbers in them are compared as numbers, so a
statement that holds one that is not a number differs even from itself.
-/

namespace SqlText

/-- Whether two lists have the same length and their items are pairwise the same. -/
def sameItems {α : Type} (same : α → α → Bool) : List α → List α → Bool
  | [], [] => true
  | item :: rest, other :: others => same item other && sameItems same rest others
  | _, _ => false

/-- Equality of arrays.  Their elements must be of the same type even if there are
none. -/
def Elements.same : Elements → Elements → Bool
  | strings items, strings others => items == others
  | ints items, ints others => items == others
  | floats items, floats others => sameItems Numeric.Binary.same items others
  | doubles items, doubles others => sameItems Numeric.Binary.same items others
  | bools items, bools others => items == others
  | dates items, dates others => items == others
  | parameters items, parameters others => items == others
  | _, _ => false

mutual

/-- Equality of operands. -/
def Operand.same : Operand → Operand → Bool
  | .clause clause, .clause other => clause.same other
  | .value value, .value other => value.same other
  | .array elements, .array other => elements.same other
  | .column column, .column other => column == other
  | .expression expression, .expression other => expression == other
  | .parameter parameter, .parameter other => parameter == other
  | .query select, .query other => select.same other
  | .any select, .any other => select.same other
  | .all select, .all other => select.same other
  | _, _ => false

/-- Equality of conditions. -/
def Clause.same : Clause → Clause → Bool
  | ⟨condition, left?, right?⟩, ⟨otherCondition, otherLeft?, otherRight?⟩ =>
      condition == otherCondition && sameOperand? left? otherLeft? &&
        sameOperand? right? otherRight?

/-- Equality of queries. -/
def Select.same : Select → Select → Bool
  | ⟨table, columns, distinct, groupBy, having?, slots⟩,
      ⟨otherTable, otherColumns, otherDistinct, otherGroupBy, otherHaving?, otherSlots⟩ =>
      table == otherTable && sameOperands columns otherColumns && distinct == otherDistinct &&
        groupBy == otherGroupBy && sameClause? having? otherHaving? && slots.same otherSlots

/-- Equality of slots. -/
def Slots.same : Slots → Slots → Bool
  | ⟨filter?, suffix?, withTables, problems⟩,
      ⟨otherFilter?, otherSuffix?, otherTables, otherProblems⟩ =>
      sameClause? filter? otherFilter? && suffix? == otherSuffix? &&
        sameTables withTables otherTables && problems == otherProblems

/-- Equality of named queries. -/
def WithTable.same : WithTable → WithTable → Bool
  | ⟨name, select⟩, ⟨otherName, otherSelect⟩ => name == otherName && select.same otherSelect

/-- Equality of operands that may be missing. -/
def sameOperand? : Option Operand → Option Operand → Bool
  | none, none => true
  | some operand, some other => operand.same other
  | _, _ => false

/-- Equality of conditions that may be missing. -/
def sameClause? : Option Clause → Option Clause → Bool
  | none, none => true
  | some clause, some other => clause.same other
  | _, _ => false

/-- Equality of lists of operands. -/
def sameOperands : List Operand → List Operand → Bool
  | [], [] => true
  | operand :: rest, other :: others => operand.same other && sameOperands rest others
  | _, _ => false

/-- Equality of lists of named queries. -/
def sameTables : List WithTable → List WithTable → Bool
  | [], [] => true
  | table :: rest, other :: others => table.same other && sameTables rest others
  | _, _ => false

end

/-- Equality of lists of columns with their values. -/
def samePairs : List (Column × Operand) → List (Column × Operand) → Bool :=
  sameItems fun pair other => pair.1 == other.1 && pair.2.same other.2

/-- Equality of statements. -/
def Statement.same : Statement → Statement → Bool
  | select statement, select other => statement.same other
  | insert statement, insert other =>
      statement.table == other.table && samePairs statement.values other.values &&
        statement.slots.same other.slots
  | update statement, update other =>
      statement.table == other.table && samePairs statement.assignments other.assignments &&
        statement.slots.same other.slots
  | delete statement, delete other =>
      statement.table == other.table && statement.slots.same other.slots
  | raw statement, raw other =>
      statement.sql == other.sql && statement.tables == other.tables &&
        statement.slots.same other.slots
  | createIndex statement, createIndex other =>
      statement.index == other.index && statement.slots.same other.slots
  | dropIndex statement, dropIndex other =>
      statement.index == other.index && statement.slots.same other.slots
  | _, _ => false

end SqlText
