import SqlText.Column

/-!
# Indexes

An index covers columns of one table, each of them once.  A list of columns that
does not fit is refused with the first fault in it.
-/

namespace SqlText

/-- Whether columns can form an index of a table: there is at least one, each
belongs to the table, and none appears twice. -/
def FitsIndex (table : Table) (columns : List Column) : Prop :=
  columns ≠ [] ∧ (∀ column ∈ columns, column.table = table.name) ∧ columns.Nodup

/-- An index of a table. -/
structure Index where
  name : String
  table : Table
  columns : List Column
  unique : Bool
deriving DecidableEq, Repr

namespace Index

/-- Checks columns one after the other, given the names of those before them.  A
column of another table is reported as such even if its name appeared before. -/
def checkColumns (index : String) (table : Table) : (seen : List String) → List Column →
    Except Fault Unit
  | _, [] => .ok ()
  | seen, column :: rest =>
      if column.table ≠ table.name then
        .error (.indexStrayColumn index column.qualifiedName table.name)
      else if column.name ∈ seen then
        .error (.indexRepeatedColumn index column.name)
      else checkColumns index table (column.name :: seen) rest

/-- The index with the given parts, if the columns fit. -/
def of (name : String) (table : Table) (columns : List Column) (unique : Bool) :
    Except Fault Index := do
  if columns.isEmpty then
    throw (.indexWithoutColumns name)
  checkColumns name table [] columns
  return ⟨name, table, columns, unique⟩

end Index

end SqlText
