import SqlText.Statement.Build

/-!
# Writing in one pass

Building writes marks first and numbers them in the finished text.  The writers of
this file do without marks: they go through a statement in the order of its text,
keep count of the placeholders, and write each of them at once.

```text
building                                writing in one pass
insert: values, then `WITH`             `WITH`, then values
membership in nothing: left operand     not looked at
  is written and dropped
numbers: from the marks in the text     from the count so far
```

The text is kept in tokens, so that it can still be seen which part of it stands for
which parameter.
-/

namespace SqlText

/-! ## Writers -/

/-- A part of a text, with the parameter that it stands for. -/
structure Token where
  parameter? : Option Parameter
  text : String
deriving DecidableEq, Repr

/-- The text of tokens. -/
def textOf (tokens : List Token) : String :=
  String.join (tokens.map Token.text)

/-- From the number of placeholders so far to tokens and the number of placeholders
after them. -/
def Writer := Nat → Except Fault (List Token × Nat)

namespace Writer

/-- Writes nothing. -/
def nothing : Writer :=
  fun count => .ok ([], count)

/-- Writes fixed text. -/
def fixed (text : String) : Writer :=
  fun count => .ok ([⟨none, text⟩], count)

/-- Cannot write. -/
def fail (fault : Fault) : Writer :=
  fun _ => .error fault

/-- Writes nothing, if a check succeeds. -/
def check (result : Except Fault Unit) : Writer :=
  fun count => do
    result
    return ([], count)

/-- Writes a parameter: an unnamed one as the next placeholder, a named one as it is
written anyway. -/
def parameter (dialect : Dialect) : Parameter → Writer
  | ⟨none⟩ => fun count => .ok ([⟨some .unnamed, dialect.placeholder (count + 1)⟩], count + 1)
  | ⟨some name⟩ => fun count => do
      let markup ← Parameter.render dialect ⟨some name⟩
      return ([⟨some (.named name), markup.encode⟩], count)

/-- Writes a value. -/
def value (dialect : Dialect) (value : Value) : Writer :=
  fun count => do
    let markup ← value.render dialect
    return ([⟨none, markup.encode⟩], count)

/-- One writer after the other. -/
instance : Append Writer where
  append first second := fun count => do
    let (tokens, count) ← first count
    let (others, count) ← second count
    return (tokens ++ others, count)

/-- Writers with a text between every two of them. -/
def separated (separator : String) : List Writer → Writer
  | [] => nothing
  | [writer] => writer
  | writer :: rest => writer ++ fixed separator ++ separated separator rest

end Writer

/-! ## Writers of statements -/

open Writer (nothing fixed fail check separated)

/-- Writes the elements of an array, each on its own. -/
def Elements.writers (dialect : Dialect) : Elements → List Writer
  | strings items => items.map fun item => .value dialect (.string item)
  | ints items => items.map fun item => .value dialect (.int item)
  | floats items => items.map fun item => .value dialect (.float item)
  | doubles items => items.map fun item => .value dialect (.double item)
  | bools items => items.map fun item => .value dialect (.bool item)
  | dates items => items.map fun item => .value dialect (.date item)
  | parameters items => items.map (.parameter dialect)

/-- Writes the elements of an array operand; there are none for any other. -/
def Operand.elementWriters? (dialect : Dialect) (operand : Operand) : Option (List Writer) :=
  operand.elements?.map (Elements.writers dialect)

/-- Writes the suffix after a space. -/
def Slots.writeSuffix (slots : Slots) : Writer :=
  match slots.suffix? with
  | some suffix => fixed (" " ++ suffix)
  | none => nothing

/-- Writes the names of the tables of the `WITH` clause after a keyword. -/
def Slots.writeNames (slots : Slots) (dialect : Dialect) (keyword : String) : Writer :=
  match slots.withTables with
  | [] => nothing
  | tables => fixed (" " ++ keyword ++ " " ++
      ", ".intercalate (tables.map fun table => dialect.identifier table.name))

/-- Writes the grouping of a query. -/
def writeGrouping (dialect : Dialect) : List Column → Writer
  | [] => nothing
  | columns => fixed (" GROUP BY " ++ Column.listText columns dialect)

mutual

/-- Writes an operand. -/
def Operand.write (dialect : Dialect) : Operand → Writer
  | .clause clause => fixed "(" ++ clause.write dialect ++ fixed ")"
  | .value value => .value dialect value
  | .array _ => nothing
  | .column column => fixed (column.text dialect)
  | .expression expression => fixed (expression.text dialect)
  | .parameter parameter => .parameter dialect parameter
  | .query select => fixed "(" ++ select.write dialect ++ fixed ")"
  | .any select =>
      if dialect.allowsAnyOnQuery then
        fixed (dialect.text .any ++ " (") ++ select.write dialect ++ fixed ")"
      else fail (.anyUnsupported dialect.name)
  | .all select => fixed (dialect.text .all ++ " (") ++ select.write dialect ++ fixed ")"

/-- Writes a condition. -/
def Clause.write (dialect : Dialect) : Clause → Writer
  | ⟨condition, none, right?⟩ =>
      if condition.standsBefore then
        match right? with
        | some right => fixed (condition.text ++ " ") ++ right.write dialect
        | none => fail (.missingRight condition)
      else fail (.missingLeft condition)
  | ⟨condition, some left, none⟩ =>
      if condition.standsAfter then left.write dialect ++ fixed (" " ++ condition.text)
      else fail (.missingRight condition)
  | ⟨condition, some left, some right⟩ =>
      match condition.form with
      | .after => fail (.unexpectedRight condition)
      | .before => fail (.unexpectedLeft condition)
      | .binary =>
          left.write dialect ++ fixed (" " ++ condition.text ++ " ") ++ right.write dialect
      | .range =>
          match right.elementWriters? dialect with
          | some [low, high] =>
              left.write dialect ++ fixed (" " ++ condition.text ++ " ") ++ low ++
                fixed " AND " ++ high
          | some items => fail (.rangeOfLength condition items.length)
          | none => fail (.rangeWithoutArray condition)
      | .membership whenEmpty =>
          match right with
          | .query select =>
              left.write dialect ++ fixed (" " ++ condition.text ++ " (") ++
                select.write dialect ++ fixed ")"
          | right =>
              match right.elementWriters? dialect with
              | some [] => fixed whenEmpty
              | some items =>
                  left.write dialect ++ fixed (" " ++ condition.text ++ " (") ++
                    separated ", " items ++ fixed ")"
              | none => fail (.membershipWithoutArray condition)

/-- Writes a query. -/
def Select.write (dialect : Dialect) : Select → Writer
  | ⟨table, columns, distinct, groupBy, having?, slots⟩ =>
      check (slots.check .select) ++ slots.writeWith dialect ++
        fixed ("SELECT " ++ if distinct then "DISTINCT " else "") ++
        (if columns.isEmpty then fixed "*" else separated ", " (operandWriters dialect columns)) ++
        fixed (" FROM " ++ table.text dialect) ++ slots.writeFilter dialect ++
        writeGrouping dialect groupBy ++ writeHaving dialect having? ++ slots.writeSuffix

/-- Writes the `WITH` clause and a space after it. -/
def Slots.writeWith (dialect : Dialect) : Slots → Writer
  | ⟨_, _, [], _⟩ => nothing
  | ⟨_, _, tables, _⟩ =>
      fixed "WITH " ++ separated ", " (tableWriters dialect tables) ++ fixed " "

/-- Writes the filter. -/
def Slots.writeFilter (dialect : Dialect) : Slots → Writer
  | ⟨some clause, _, _, _⟩ => fixed " WHERE " ++ clause.write dialect
  | ⟨none, _, _, _⟩ => nothing

/-- Writes the condition on the groups of a query. -/
def writeHaving (dialect : Dialect) : Option Clause → Writer
  | some clause => fixed " HAVING " ++ clause.write dialect
  | none => nothing

/-- Writes a named query. -/
def WithTable.write (dialect : Dialect) : WithTable → Writer
  | ⟨name, select⟩ =>
      fixed (dialect.identifier name ++ " AS (") ++ select.write dialect ++ fixed ")"

/-- Writes operands, each on its own. -/
def operandWriters (dialect : Dialect) : List Operand → List Writer
  | [] => []
  | operand :: rest => operand.write dialect :: operandWriters dialect rest

/-- Writes named queries, each on its own. -/
def tableWriters (dialect : Dialect) : List WithTable → List Writer
  | [] => []
  | table :: rest => table.write dialect :: tableWriters dialect rest

end

/-- Writes an assignment. -/
def writeAssignment (dialect : Dialect) (column : Column) (value : Operand) : Writer :=
  fixed (column.text dialect ++ " = ") ++ value.write dialect

/-- Writes a statement in the order of its text. -/
def Statement.write (dialect : Dialect) : Statement → Writer
  | select statement => statement.write dialect
  | insert statement =>
      check (statement.slots.check .insert) ++ statement.slots.writeWith dialect ++
        fixed ("INSERT INTO " ++ statement.table.text dialect ++ " (" ++
          Column.listText (statement.values.map Prod.fst) dialect ++ ") VALUES (") ++
        separated ", " (operandWriters dialect (statement.values.map Prod.snd)) ++ fixed ")" ++
        statement.slots.writeSuffix
  | update statement =>
      check (statement.slots.check .update) ++ statement.slots.writeWith dialect ++
        fixed ("UPDATE " ++ statement.table.text dialect ++ " SET ") ++
        separated ", " (statement.assignments.map fun entry =>
          writeAssignment dialect entry.1 entry.2) ++
        (if dialect.updateListsTables then statement.slots.writeNames dialect "FROM"
          else nothing) ++
        statement.slots.writeFilter dialect ++ statement.slots.writeSuffix
  | delete statement =>
      check (statement.slots.check .delete) ++ statement.slots.writeWith dialect ++
        fixed ("DELETE FROM " ++ statement.table.text dialect) ++
        (if dialect.deleteListsTables then statement.slots.writeNames dialect "USING"
          else nothing) ++
        statement.slots.writeFilter dialect ++ statement.slots.writeSuffix
  | raw statement =>
      check (statement.slots.check .raw) ++ statement.slots.writeWith dialect ++
        fixed statement.sql ++ statement.slots.writeFilter dialect ++
        statement.slots.writeSuffix
  | createIndex statement =>
      check (statement.slots.check .createIndex) ++
        fixed ("CREATE " ++ (if statement.index.unique then "UNIQUE " else "") ++ "INDEX " ++
          dialect.identifier statement.index.name ++ " ON " ++
          statement.index.table.text dialect ++ " (" ++
          Column.listText statement.index.columns dialect ++ ")") ++
        statement.slots.writeSuffix
  | dropIndex statement =>
      check (statement.slots.check .dropIndex) ++
        fixed ("DROP INDEX " ++ dialect.identifier statement.index.name ++
          if dialect.dropIndexNamesTable then " ON " ++ statement.index.table.text dialect
          else "") ++
        statement.slots.writeSuffix

end SqlText
