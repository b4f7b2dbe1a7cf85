import SqlText.Log
import SqlText.Statement.Tree

/-!
# Writing conditions and queries

Here the shapes of operands are checked.  A condition is looked at from the
outside in: first whether its operator has the operands it takes, then the left
operand, then the right one.  A query reports its own refused steps before it
looks at its parts, and looks at them in the order in which it writes them.  Where
there is a log, refused steps are recorded in it at the place where they are found.

Parameters become places in the outcome, in the order in which they are written.
-/

namespace SqlText

open Markup (text joined)
open Recording (fail ofResult record)

variable {m : Type → Type} [Monad m] [Recording m]

/-! ## Values and arrays -/

/-- Writes a string, which must be free of reserved characters. -/
def renderString (dialect : Dialect) (content : String) : Except Fault Markup :=
  if Text.hasReserved content then .error (.reservedInString content)
  else .ok (text (dialect.literal (.string content)))

/-- Writes a scalar value. -/
def Value.render (dialect : Dialect) : Value → Except Fault Markup
  | .string content => renderString dialect content
  | value => .ok (text (dialect.literal value))

/-- Writes the elements of an array, each on its own. -/
def Elements.render (dialect : Dialect) : Elements → Except Fault (List Markup)
  | strings items => items.mapM (renderString dialect)
  | ints items => .ok (items.map fun item => text (dialect.literal (.int item)))
  | floats items => .ok (items.map fun item => text (dialect.literal (.float item)))
  | doubles items => .ok (items.map fun item => text (dialect.literal (.double item)))
  | bools items => .ok (items.map fun item => text (dialect.literal (.bool item)))
  | dates items => .ok (items.map fun item => text (dialect.literal (.date item)))
  | parameters items => items.mapM (Parameter.render dialect)

/-- Writes the elements of an array operand; there are none for any other. -/
def Operand.renderElements (dialect : Dialect) (operand : Operand) :
    Except Fault (Option (List Markup)) :=
  match operand.elements? with
  | some elements => (elements.render dialect).map some
  | none => .ok none

/-! ## Slots that do not nest -/

namespace Slots

/-- Fails if steps were refused, on behalf of a statement of the given kind. -/
def check (slots : Slots) (kind : StatementKind) : m Unit :=
  if slots.problems.isEmpty then pure ()
  else do
    record (.rejected kind slots.problems.length)
    fail (.rejected kind slots.problems)

/-- Without a log the refused steps are only reported. -/
theorem check_eq (slots : Slots) (kind : StatementKind) :
    slots.check kind =
      if slots.problems.isEmpty then .ok () else .error (.rejected kind slots.problems) :=
  rfl

/-- Writes the suffix after a space. -/
def renderSuffix (slots : Slots) : Markup :=
  match slots.suffix? with
  | some suffix => text (" " ++ suffix)
  | none => []

/-- The names of the tables of the `WITH` clause after a keyword, if there is such
a clause. -/
def renderNames (slots : Slots) (dialect : Dialect) (keyword : String) : Markup :=
  match slots.withTables with
  | [] => []
  | tables => text (" " ++ keyword ++ " " ++
      ", ".intercalate (tables.map fun table => dialect.identifier table.name))

end Slots

/-- Writes the grouping of a query. -/
def renderGrouping (dialect : Dialect) : List Column → Markup
  | [] => []
  | columns => text (" GROUP BY " ++ Column.listText columns dialect)

/-! ## Conditions and queries -/

mutual

/-- Writes an operand.  An array has no text of its own: only ranges and membership
tests give it one. -/
def Operand.render (dialect : Dialect) : Operand → m Markup
  | .clause clause => do
      return text "(" ++ (← clause.render dialect) ++ text ")"
  | .value value => ofResult (value.render dialect)
  | .array _ => pure []
  | .column column => pure (text (column.text dialect))
  | .expression expression => pure (text (expression.text dialect))
  | .parameter parameter => ofResult (parameter.render dialect)
  | .query select => do
      return text "(" ++ (← select.render dialect) ++ text ")"
  | .any select =>
      if dialect.allowsAnyOnQuery then do
        return text (dialect.text .any ++ " (") ++ (← select.render dialect) ++ text ")"
      else fail (.anyUnsupported dialect.name)
  | .all select => do
      return text (dialect.text .all ++ " (") ++ (← select.render dialect) ++ text ")"

/-- Writes a condition. -/
def Clause.render (dialect : Dialect) : Clause → m Markup
  | ⟨condition, none, right?⟩ =>
      if condition.standsBefore then
        match right? with
        | some right => do
            return text (condition.text ++ " ") ++ (← right.render dialect)
        | none => fail (.missingRight condition)
      else fail (.missingLeft condition)
  | ⟨condition, some left, none⟩ =>
      if condition.standsAfter then do
        return (← left.render dialect) ++ text (" " ++ condition.text)
      else fail (.missingRight condition)
  | ⟨condition, some left, some right⟩ =>
      match condition.form with
      | .after => fail (.unexpectedRight condition)
      | .before => fail (.unexpectedLeft condition)
      | .binary => do
          return (← left.render dialect) ++ text (" " ++ condition.text ++ " ") ++
            (← right.render dialect)
      | .range => do
          let subject ← left.render dialect
          match ← ofResult (right.renderElements dialect) with
          | some [low, high] =>
              return subject ++ text (" " ++ condition.text ++ " ") ++ low ++ text " AND " ++ high
          | some items => fail (.rangeOfLength condition items.length)
          | none => fail (.rangeWithoutArray condition)
      | .membership whenEmpty => do
          let subject ← left.render dialect
          match right with
          | .query select =>
              return subject ++ text (" " ++ condition.text ++ " (") ++
                (← select.render dialect) ++ text ")"
          | right =>
              match ← ofResult (right.renderElements dialect) with
              | some [] => return text whenEmpty
              | some items =>
                  return subject ++ text (" " ++ condition.text ++ " (") ++
                    joined ", " items ++ text ")"
              | none => fail (.membershipWithoutArray condition)

/-- Writes a query. -/
def Select.render (dialect : Dialect) : Select → m Markup
  | ⟨table, columns, distinct, groupBy, having?, slots⟩ => do
      slots.check .select
      let head ← slots.renderWith dialect
      let items ← renderOperands dialect columns
      let filter ← slots.renderFilter dialect
      let having ← match having? with
        | some clause => do
            pure (text " HAVING " ++ (← clause.render dialect))
        | none => pure []
      return head ++ text ("SELECT " ++ if distinct then "DISTINCT " else "") ++
        (if items.isEmpty then text "*" else joined ", " items) ++
        text (" FROM " ++ table.text dialect) ++ filter ++ renderGrouping dialect groupBy ++
        having ++ slots.renderSuffix

/-- Writes the `WITH` clause and a space after it. -/
def Slots.renderWith (dialect : Dialect) : Slots → m Markup
  | ⟨_, _, [], _⟩ => pure []
  | ⟨_, _, tables, _⟩ => do
      return text "WITH " ++ joined ", " (← renderTables dialect tables) ++ text " "

/-- Writes the filter. -/
def Slots.renderFilter (dialect : Dialect) : Slots → m Markup
  | ⟨some clause, _, _, _⟩ => do
      return text " WHERE " ++ (← clause.render dialect)
  | ⟨none, _, _, _⟩ => pure []

/-- Writes a named query. -/
def WithTable.render (dialect : Dialect) : WithTable → m Markup
  | ⟨name, select⟩ => do
      return text (dialect.identifier name ++ " AS (") ++ (← select.render dialect) ++ text ")"

/-- Writes operands, each on its own. -/
def renderOperands (dialect : Dialect) : List Operand → m (List Markup)
  | [] => pure []
  | operand :: rest => do
      return (← operand.render dialect) :: (← renderOperands dialect rest)

/-- Writes named queries, each on its own. -/
def renderTables (dialect : Dialect) : List WithTable → m (List Markup)
  | [] => pure []
  | table :: rest => do
      return (← table.render dialect) :: (← renderTables dialect rest)

end

end SqlText
