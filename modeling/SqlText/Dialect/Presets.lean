import SqlText.Dialect.Basic

/-!
# The dialects of common databases

Each is the plain dialect with a few changes.
-/

namespace SqlText.Dialect

/-- PostgreSQL numbers its placeholders after a dollar sign. -/
def postgres : Dialect :=
  { ansi with
    name := "postgres"
    numbersParameters := true
    deleteListsTables := true
    updateListsTables := true
    datePattern? := some "'%Y-%m-%d %H:%M:%S'::timestamp" }
  |>.withText .numberedParameter "$"
  |>.withText .now "NOW()"
  |>.withText .charType "VARCHAR"

/-- MySQL quotes names with grave accents. -/
def mysql : Dialect :=
  { ansi with
    name := "mysql"
    dropIndexNamesTable := true }
  |>.withText .identifierQuote "`"
  |>.withText .now "NOW()"
  |>.withText .upperCase "UCASE"
  |>.withText .lowerCase "LCASE"
  |>.withText .int32Type "SIGNED"
  |>.withText .floatType "FLOAT"
  |>.withText .doubleType "DOUBLE"

/-- SQLite has numbers for truth values and names placeholders after a colon. -/
def sqlite : Dialect :=
  { ansi with
    name := "sqlite"
    allowsAnyOnQuery := false }
  |>.withText .booleanTrue "1"
  |>.withText .booleanFalse "0"
  |>.withText .namedParameter ":"
  |>.withText .charType "TEXT"
  |>.withText .doubleType "REAL"

/-- SQL Server numbers placeholders after `@p` and names them after `@`. -/
def sqlserver : Dialect :=
  { ansi with
    name := "sqlserver"
    numbersParameters := true
    dropIndexNamesTable := true }
  |>.withText .numberedParameter "@p"
  |>.withText .namedParameter "@"
  |>.withText .booleanTrue "1"
  |>.withText .booleanFalse "0"
  |>.withText .now "GETDATE()"
  |>.withText .charType "NVARCHAR"
  |>.withText .int32Type "INT"
  |>.withText .doubleType "FLOAT"

end SqlText.Dialect
