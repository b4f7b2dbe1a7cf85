import SqlText.Index
import SqlText.Statement.Tree

/-!
# Statements

A statement is described step by step.  Each step gives a new description and
leaves the old one as it was, so one description can be the start of several.
A step that comes too late, or that gives nothing, does not fail: the statement
remembers that it was refused and cannot be written any more.
-/

namespace SqlText

/-- Stores one row.  It has at least one value. -/
structure Insert where
  table : Table
  values : List (Column × Operand)
  slots : Slots
  values_ne_nil : values ≠ []

/-- Changes rows.  It has at least one assignment. -/
structure Update where
  table : Table
  assignments : List (Column × Operand)
  slots : Slots
  assignments_ne_nil : assignments ≠ []

/-- Removes rows: all of them, if there is no filter. -/
structure Delete where
  table : Table
  slots : Slots

/-- A statement whose text is given, with the tables that it uses. -/
structure Raw where
  sql : String
  tables : List Table
  slots : Slots

/-- A statement about an index. -/
structure IndexStatement where
  index : Index
  slots : Slots

/-- A statement. -/
inductive Statement
  | select (select : Select)
  | insert (insert : Insert)
  | update (update : Update)
  | delete (delete : Delete)
  | raw (raw : Raw)
  | createIndex (creation : IndexStatement)
  | dropIndex (removal : IndexStatement)

/-- An insertion of the given values, of which there must be one. -/
def Insert.of (table : Table) (values : List (Column × Operand)) : Except Fault Insert :=
  if h : values = [] then .error (.insertWithoutValues table.name)
  else .ok ⟨table, values, .empty, h⟩

/-- An update with the given assignments, of which there must be one. -/
def Update.of (table : Table) (assignments : List (Column × Operand)) : Except Fault Update :=
  if h : assignments = [] then .error (.updateWithoutAssignments table.name)
  else .ok ⟨table, assignments, .empty, h⟩

/-- A step in the description of a statement. -/
inductive Step
  | filter (clause : Clause)
  | having (clause : Clause)
  | suffix (text : String)
  | withTables (tables : List WithTable)
  | set (column : Column) (value : Operand)
  | columns (columns : List Operand)
  | distinct
  | groupBy (columns : List Column)

namespace Slots

/-- A step that only concerns the slots. -/
def after? (slots : Slots) : Step → Option Slots
  | .filter clause => some (slots.setFilter clause)
  | .suffix text => some (slots.setSuffix text)
  | .withTables tables => some (slots.setWith tables)
  | _ => none

end Slots

/-- The query after a step, if queries have such a step. -/
def Select.after? (select : Select) : Step → Option Select
  | .columns columns => some { select with columns }
  | .distinct => some { select with distinct := true }
  | .groupBy columns => some { select with groupBy := columns }
  | .having clause =>
      match select.having? with
      | none => some { select with having? := some clause }
      | some _ => some { select with slots := select.slots.refuse .secondHaving }
  | step => (select.slots.after? step).map fun slots => { select with slots }

/-- The insertion after a step, if insertions have such a step. -/
def Insert.after? (insert : Insert) : Step → Option Insert
  | .set column value =>
      some ⟨insert.table, insert.values ++ [(column, value)], insert.slots, by simp⟩
  | .filter _ => none
  | step => (insert.slots.after? step).map fun slots => { insert with slots }

/-- The update after a step, if updates have such a step. -/
def Update.after? (update : Update) : Step → Option Update
  | .set column value =>
      some ⟨update.table, update.assignments ++ [(column, value)], update.slots, by simp⟩
  | step => (update.slots.after? step).map fun slots => { update with slots }

/-- The deletion after a step, if deletions have such a step. -/
def Delete.after? (delete : Delete) (step : Step) : Option Delete :=
  (delete.slots.after? step).map fun slots => { delete with slots }

/-- The given statement after a step, if it has such a step. -/
def Raw.after? (raw : Raw) (step : Step) : Option Raw :=
  (raw.slots.after? step).map fun slots => { raw with slots }

/-- The statement about an index after a step.  It can only get a suffix. -/
def IndexStatement.after? (statement : IndexStatement) : Step → Option IndexStatement
  | .suffix text => some { statement with slots := statement.slots.setSuffix text }
  | _ => none

namespace Statement

/-- The statement after a step, if its kind has such a step. -/
def after? (statement : Statement) (step : Step) : Option Statement :=
  match statement with
  | select statement => (statement.after? step).map select
  | insert statement => (statement.after? step).map insert
  | update statement => (statement.after? step).map update
  | delete statement => (statement.after? step).map delete
  | raw statement => (statement.after? step).map raw
  | createIndex statement => (statement.after? step).map createIndex
  | dropIndex statement => (statement.after? step).map dropIndex

/-- The statement after steps, if its kind has all of them. -/
def afterAll? (statement : Statement) (steps : List Step) : Option Statement :=
  steps.foldlM after? statement

/-- The kind of a statement. -/
def kind : Statement → StatementKind
  | select _ => .select
  | insert _ => .insert
  | update _ => .update
  | delete _ => .delete
  | raw _ => .raw
  | createIndex _ => .createIndex
  | dropIndex _ => .dropIndex

/-- The slots of a statement. -/
def slots : Statement → Slots
  | select statement => statement.slots
  | insert statement => statement.slots
  | update statement => statement.slots
  | delete statement => statement.slots
  | raw statement => statement.slots
  | createIndex statement => statement.slots
  | dropIndex statement => statement.slots

/-- The refused steps, in order. -/
def problems (statement : Statement) : List Problem :=
  statement.slots.problems

end Statement

end SqlText
