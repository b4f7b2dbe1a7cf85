import SqlText.Dialect.Presets
import SqlText.Log
import SqlText.Statement.Basic
import SqlText.Statement.Render

/-!
# Building statements

A statement is written as markup, and building turns this into its final text by
numbering the places of unnamed parameters.  Places of named parameters stay in
the text until they are resolved.  The two kinds are counted separately, so a
text with both is refused.
-/

namespace SqlText

open Markup (text joined)

variable {m : Type → Type} [Monad m] [Recording m]

/-- Writes the assignments of an update, each on its own. -/
def renderAssignments (dialect : Dialect) :
    List (Column × Operand) → m (List Markup)
  | [] => pure []
  | (column, value) :: rest => do
      return (text (column.text dialect ++ " = ") ++ (← value.render dialect)) ::
        (← renderAssignments dialect rest)

/-- Writes an insertion.  Its values are looked at before its `WITH` clause. -/
def Insert.render (dialect : Dialect) (insert : Insert) : m Markup := do
  insert.slots.check .insert
  let columns := Column.listText (insert.values.map Prod.fst) dialect
  let values ← renderOperands dialect (insert.values.map Prod.snd)
  let head ← insert.slots.renderWith dialect
  return head ++
    text ("INSERT INTO " ++ insert.table.text dialect ++ " (" ++ columns ++ ") VALUES (") ++
    joined ", " values ++ text ")" ++ insert.slots.renderSuffix

/-- Writes an update. -/
def Update.render (dialect : Dialect) (update : Update) : m Markup := do
  update.slots.check .update
  let head ← update.slots.renderWith dialect
  let assignments ← renderAssignments dialect update.assignments
  let filter ← update.slots.renderFilter dialect
  return head ++ text ("UPDATE " ++ update.table.text dialect ++ " SET ") ++
    joined ", " assignments ++
    (if dialect.updateListsTables then update.slots.renderNames dialect "FROM" else []) ++
    filter ++ update.slots.renderSuffix

/-- Writes a deletion. -/
def Delete.render (dialect : Dialect) (delete : Delete) : m Markup := do
  delete.slots.check .delete
  let head ← delete.slots.renderWith dialect
  let filter ← delete.slots.renderFilter dialect
  return head ++ text ("DELETE FROM " ++ delete.table.text dialect) ++
    (if dialect.deleteListsTables then delete.slots.renderNames dialect "USING" else []) ++
    filter ++ delete.slots.renderSuffix

/-- Writes a statement whose text is given. -/
def Raw.render (dialect : Dialect) (raw : Raw) : m Markup := do
  raw.slots.check .raw
  let head ← raw.slots.renderWith dialect
  let filter ← raw.slots.renderFilter dialect
  return head ++ text raw.sql ++ filter ++ raw.slots.renderSuffix

/-- Writes the creation of an index. -/
def IndexStatement.renderCreation (dialect : Dialect) (creation : IndexStatement) :
    m Markup := do
  creation.slots.check .createIndex
  let index := creation.index
  return text ("CREATE " ++ (if index.unique then "UNIQUE " else "") ++ "INDEX " ++
    dialect.identifier index.name ++ " ON " ++ index.table.text dialect ++ " (" ++
    Column.listText index.columns dialect ++ ")") ++ creation.slots.renderSuffix

/-- Writes the removal of an index. -/
def IndexStatement.renderRemoval (dialect : Dialect) (removal : IndexStatement) :
    m Markup := do
  removal.slots.check .dropIndex
  let index := removal.index
  return text ("DROP INDEX " ++ dialect.identifier index.name ++
    if dialect.dropIndexNamesTable then " ON " ++ index.table.text dialect else "") ++
    removal.slots.renderSuffix

namespace Statement

/-- Writes a statement. -/
def render (dialect : Dialect) : Statement → m Markup
  | select statement => statement.render dialect
  | insert statement => statement.render dialect
  | update statement => statement.render dialect
  | delete statement => statement.render dialect
  | raw statement => statement.render dialect
  | createIndex statement => statement.renderCreation dialect
  | dropIndex statement => statement.renderRemoval dialect

/-- Writes a statement and records the refused steps that stopped it. -/
def renderLogged (dialect : Dialect) (statement : Statement) : Logged Markup :=
  statement.render dialect

/-- Builds the text of a statement and records how that went. -/
def buildLogged (dialect : Dialect) (statement : Statement) : Logged String := do
  let markup ← statement.renderLogged dialect
  let placeholders := countSlots markup.encode
  if 0 < placeholders ∧ hasNames markup.encode then
    .of [.mixed statement.kind placeholders] (.error .mixedParameters)
  else do
    let sql ← numberSlotsLogged dialect markup.encode
    Logged.record (.built statement.kind dialect.name sql.utf8ByteSize placeholders)
    return sql

/-- Builds the text of a statement, resolves the names in it, and records how that
went. -/
def buildNamedLogged (dialect : Dialect) (statement : Statement) : Logged NamedText := do
  let sql ← statement.buildLogged dialect
  resolveNamesLogged dialect sql

/-- The text of a statement in a dialect. -/
def build (dialect : Dialect) (statement : Statement) : Except Fault String :=
  (statement.buildLogged dialect).result

/-- The text of a statement in a dialect, with its names resolved. -/
def buildNamed (dialect : Dialect) (statement : Statement) : Except Fault NamedText :=
  (statement.buildNamedLogged dialect).result

/-- The text of a statement in the plain dialect. -/
def toSql (statement : Statement) : Except Fault String :=
  statement.build .ansi

/-- Building with names without the log. -/
theorem buildNamed_eq (dialect : Dialect) (statement : Statement) :
    statement.buildNamed dialect = statement.build dialect >>= resolveNames dialect := by
  simp [buildNamed, buildNamedLogged, build]

end Statement

end SqlText
