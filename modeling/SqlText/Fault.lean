import SqlText.Condition
import SqlText.Text.Quoted

/-!
# What can go wrong

Every failure of the library is a `Fault`: a value that names the cause and holds
what its message needs.  A fault belongs to one of three kinds.  Writing a
statement only ever finds it malformed; the other kinds come from loading a
dialect and from running a statement.
-/

namespace SqlText

/-- The kinds of statements. -/
inductive StatementKind
  | select
  | insert
  | update
  | delete
  | raw
  | createIndex
  | dropIndex
deriving DecidableEq, Repr

/-- The name of a kind of statement. -/
def StatementKind.name : StatementKind → String
  | select => "select"
  | insert => "insert"
  | update => "update"
  | delete => "delete"
  | raw => "raw"
  | createIndex => "create_index"
  | dropIndex => "drop_index"

/-- A step in describing a statement that was refused.  It is remembered by the
statement and reported when the statement is written. -/
inductive Problem
  | secondFilter
  | secondSuffix
  | secondWith
  | emptyWith
  | secondHaving
deriving DecidableEq, Repr

/-- The wording of a refused step. -/
def Problem.message : Problem → String
  | secondFilter => "multiple where clauses"
  | secondSuffix => "multiple suffixes"
  | secondWith => "multiple with clauses"
  | emptyWith => "with clause requires at least one table"
  | secondHaving => "multiple having clauses"

/-- The kinds of faults. -/
inductive FaultKind
  /-- What was described cannot be written as a statement. -/
  | malformed
  /-- A dialect cannot be used. -/
  | configuration
  /-- A statement could not be run. -/
  | execution
deriving DecidableEq, Repr

/-- The label that introduces a fault of a kind. -/
def FaultKind.label : FaultKind → String
  | malformed => "Syntax error"
  | configuration => "Configuration error"
  | execution => "Execution error"

/-- A failure. -/
inductive Fault
  /-- A statement of some kind remembers refused steps. -/
  | rejected (kind : StatementKind) (problems : List Problem)
  /-- A statement has both unnamed and named parameters. -/
  | mixedParameters
  /-- The mark of a named parameter does not end. -/
  | unterminatedName
  | emptyParameterName
  | reservedInParameterName (name : String)
  | reservedInString (text : String)
  | missingLeft (condition : Condition)
  | missingRight (condition : Condition)
  | unexpectedLeft (condition : Condition)
  | unexpectedRight (condition : Condition)
  /-- A range needs an array. -/
  | rangeWithoutArray (condition : Condition)
  /-- A range needs two elements, not `count`. -/
  | rangeOfLength (condition : Condition) (count : Nat)
  /-- A membership test needs an array or a query. -/
  | membershipWithoutArray (condition : Condition)
  | anyUnsupported (dialect : String)
  | unboundParameter (name : String)
  | unfilledPosition (position : Nat)
  | insertWithoutValues (table : String)
  | updateWithoutAssignments (table : String)
  | foreignKeyWithoutColumns
  | foreignKeyLengths (keys references : Nat)
  | foreignKeyStrayColumn (column table : String)
  | foreignKeyScattered
  | indexWithoutColumns (index : String)
  | indexStrayColumn (index column table : String)
  | indexRepeatedColumn (index column : String)
  | invalidDatePattern (dialect pattern : String)
  | emptyMarker (dialect : String)
  /-- The text of a dialect is not readable or has entries of a wrong type. -/
  | unreadableDialect
  /-- A fault that something outside the library reports. -/
  | reported (kind : FaultKind) (message : String)
deriving DecidableEq, Repr

namespace Fault

/-- The kind of a fault. -/
def kind : Fault → FaultKind
  | invalidDatePattern _ _ => .configuration
  | emptyMarker _ => .configuration
  | unreadableDialect => .configuration
  | reported kind _ => kind
  | _ => .malformed

/-- The wording of a fault, without the label of its kind. -/
def message : Fault → String
  | rejected _ problems => "; ".intercalate (problems.map Problem.message)
  | mixedParameters => "statement mixes unnamed and named parameters"
  | unterminatedName => "unterminated named parameter sentinel"
  | emptyParameterName => "parameter name cannot be empty"
  | reservedInParameterName name =>
      "parameter name " ++ Text.quoted name ++ " contains reserved placeholder bytes"
  | reservedInString text =>
      "string literal " ++ Text.quoted text ++ " contains reserved placeholder bytes"
  | missingLeft condition => "missing left operand for " ++ condition.text
  | missingRight condition => "missing right operand for " ++ condition.text
  | unexpectedLeft condition => "unexpected left operand for " ++ condition.text
  | unexpectedRight condition => "unexpected right operand for " ++ condition.text
  | rangeWithoutArray condition => condition.text ++ " requires a 2-element array operand"
  | rangeOfLength condition count =>
      condition.text ++ " requires a 2-element array, got " ++ toString count ++ " elements"
  | membershipWithoutArray condition =>
      condition.text ++ " requires an array or sub-query operand"
  | anyUnsupported dialect =>
      "ANY on a sub-query is not supported by dialect '" ++ dialect ++ "'"
  | unboundParameter name => "no value bound for parameter '" ++ name ++ "'"
  | unfilledPosition position => "no value for position " ++ toString position
  | insertWithoutValues table => "insert into " ++ table ++ " has no values"
  | updateWithoutAssignments table => "update of " ++ table ++ " has no assignments"
  | foreignKeyWithoutColumns => "foreign key needs at least one column"
  | foreignKeyLengths keys references =>
      "foreign key has " ++ toString keys ++ " key columns but " ++ toString references ++
        " reference columns"
  | foreignKeyStrayColumn column table =>
      "foreign key column " ++ column ++ " does not belong to table " ++ table
  | foreignKeyScattered => "foreign key reference columns span more than one table"
  | indexWithoutColumns index => "index " ++ index ++ " has no columns"
  | indexStrayColumn index column table =>
      "index " ++ index ++ " column " ++ column ++ " does not belong to table " ++ table
  | indexRepeatedColumn index column => "index " ++ index ++ " repeats column " ++ column
  | invalidDatePattern dialect pattern =>
      "dialect '" ++ dialect ++ "': invalid date-format pattern '" ++ pattern ++ "'"
  | emptyMarker dialect =>
      "dialect '" ++ dialect ++ "': numbered-parameter marker cannot be empty"
  | unreadableDialect => "dialect description cannot be read"
  | reported _ message => message

/-- The wording of a fault after the label of its kind. -/
def display (fault : Fault) : String :=
  fault.kind.label ++ ": " ++ fault.message

end Fault

end SqlText
