import SqlText.Dialect.Basic

/-!
# Tables, columns and what is made of them

References to tables and columns hold the names that are written, and no more.
From a column a few expressions can be made, whose spelling depends on the
dialect.
-/

namespace SqlText

/-- A reference to a table. -/
structure Table where
  name : String
deriving DecidableEq, Repr

/-- A reference to a column of a table. -/
structure Column where
  table : String
  name : String
deriving DecidableEq, Repr

/-- The types for which dialects have names. -/
inductive ColumnType
  | char
  | int32
  | float
  | double
deriving DecidableEq, Repr

/-- An expression over a column, or over nothing. -/
inductive ColumnExpression
  /-- The current time. -/
  | now
  | upper (column : Column)
  | lower (column : Column)
  | cast (column : Column) (type : ColumnType)
  | qualified (column : Column)
  | count (column : Column)
  /-- The number of rows. -/
  | countAll
deriving DecidableEq, Repr

/-- A column of a table. -/
def Table.column (table : Table) (name : String) : Column :=
  ⟨table.name, name⟩

/-- The text of a table's name in a dialect. -/
def Table.text (table : Table) (dialect : Dialect) : String :=
  dialect.identifier table.name

namespace Column

/-- The names of the table and of the column with a dot between, by which columns
are told apart in messages and foreign keys. -/
def qualifiedName (column : Column) : String :=
  column.table ++ "." ++ column.name

/-- The text of a column's own name in a dialect. -/
def text (column : Column) (dialect : Dialect) : String :=
  dialect.identifier column.name

/-- The text of a column's name after that of its table. -/
def qualifiedText (column : Column) (dialect : Dialect) : String :=
  dialect.identifier column.table ++ "." ++ dialect.identifier column.name

/-- The texts of columns, with commas between. -/
def listText (columns : List Column) (dialect : Dialect) : String :=
  ", ".intercalate (columns.map fun column => column.text dialect)

end Column

/-- The key of a type's name. -/
def ColumnType.key : ColumnType → Substitution
  | char => .charType
  | int32 => .int32Type
  | float => .floatType
  | double => .doubleType

/-- The name of a type in a dialect. -/
def ColumnType.text (type : ColumnType) (dialect : Dialect) : String :=
  dialect.text type.key

/-- The text of an expression in a dialect. -/
def ColumnExpression.text (dialect : Dialect) : ColumnExpression → String
  | now => dialect.text .now
  | upper column => dialect.text .upperCase ++ "(" ++ column.text dialect ++ ")"
  | lower column => dialect.text .lowerCase ++ "(" ++ column.text dialect ++ ")"
  | cast column type => "CAST(" ++ column.text dialect ++ " AS " ++ type.text dialect ++ ")"
  | qualified column => column.qualifiedText dialect
  | count column => "COUNT(" ++ column.text dialect ++ ")"
  | countAll => "COUNT(*)"

end SqlText
