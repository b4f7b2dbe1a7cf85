/-!
# The texts a dialect supplies

Databases differ in how they spell a few things: truth values, quotes around
names, placeholders, functions and types.  Each of these is a key for which a
dialect may supply a text; nearly all have a text that is used otherwise.
-/

namespace SqlText

/-- A key for which a dialect may supply a text. -/
inductive Substitution
  | booleanTrue
  | booleanFalse
  | identifierQuote
  /-- The marker of a placeholder that is known by its position. -/
  | numberedParameter
  /-- What stands before the name of a placeholder that is known by its name. -/
  | namedParameter
  | any
  | all
  | now
  | upperCase
  | lowerCase
  | charType
  | int32Type
  | floatType
  | doubleType
deriving DecidableEq, Repr

namespace Substitution

/-- Every key, in order. -/
def keys : List Substitution :=
  [booleanTrue, booleanFalse, identifierQuote, numberedParameter, namedParameter, any, all,
    now, upperCase, lowerCase, charType, int32Type, floatType, doubleType]

theorem mem_keys (key : Substitution) : key ∈ keys := by
  cases key <;> decide

/-- The text for a key in a dialect that supplies none.  Only the marker of named
placeholders has no such text: without it they are numbered. -/
def defaultText? : Substitution → Option String
  | booleanTrue => some "TRUE"
  | booleanFalse => some "FALSE"
  | identifierQuote => some "\""
  | numberedParameter => some "?"
  | namedParameter => none
  | any => some "ANY"
  | all => some "ALL"
  | now => some "CURRENT_TIMESTAMP"
  | upperCase => some "UPPER"
  | lowerCase => some "LOWER"
  | charType => some "CHAR"
  | int32Type => some "INTEGER"
  | floatType => some "REAL"
  | doubleType => some "DOUBLE PRECISION"

/-- The name of a key in a description of a dialect. -/
def name : Substitution → String
  | booleanTrue => "boolean-true"
  | booleanFalse => "boolean-false"
  | identifierQuote => "identifier-quote"
  | numberedParameter => "numbered-parameter"
  | namedParameter => "named-parameter"
  | any => "any"
  | all => "all"
  | now => "now"
  | upperCase => "ucase"
  | lowerCase => "lcase"
  | charType => "char-type"
  | int32Type => "int32-type"
  | floatType => "float-type"
  | doubleType => "double-type"

/-- The key of a given name. -/
def ofName? (text : String) : Option Substitution :=
  keys.find? fun key => key.name == text

@[simp] theorem ofName?_name (key : Substitution) : ofName? key.name = some key := by
  cases key <;> decide

end Substitution

end SqlText
