import SqlText.Statement.Build

/-!
# Running statements

A statement is run by something outside the library, which is handed the text of
the statement and its arguments.  It is asked only if the statement can be built.
-/

namespace SqlText

/-- What running a statement produced. -/
inductive Outcome
  | rows (rows : List (List Value))
  | scalar (value : Value)
  | noData
deriving DecidableEq

namespace Outcome

/-- The rows, if there are rows. -/
def rows? : Outcome → Option (List (List Value))
  | rows found => some found
  | _ => none

/-- The single value, if there is one. -/
def scalar? : Outcome → Option Value
  | scalar single => some single
  | _ => none

end Outcome

/-- Something that runs the text of a statement with arguments. -/
abbrev Executor := String → List Value → Except Fault Outcome

/-- A run of a statement: what the executor was asked, if it was asked, and what
came of it. -/
structure Run where
  request? : Option (String × List Value)
  result : Except Fault Outcome

/-- Builds a statement and has it run. -/
def Statement.execute (statement : Statement) (executor : Executor) (dialect : Dialect)
    (arguments : List Value) : Run :=
  match statement.build dialect with
  | .error fault => ⟨none, .error fault⟩
  | .ok sql => ⟨some (sql, arguments), executor sql arguments⟩

end SqlText
