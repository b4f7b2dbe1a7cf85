import SqlText.Dialect.Substitution
import SqlText.Fault
import SqlText.Value

/-!
# Dialects

A dialect says how a database wants its statements written: the texts it
supplies, a few yes-or-no questions, and perhaps a pattern for dates.  Whether a
dialect can be used is checked apart from building it.
-/

namespace SqlText

/-- How a database wants its statements written. -/
structure Dialect where
  name : String
  /-- The texts supplied by this dialect. -/
  overrides : Substitution → Option String
  /-- Whether the marker of a numbered placeholder is followed by its number. -/
  numbersParameters : Bool
  /-- Whether `ANY` may stand before a query. -/
  allowsAnyOnQuery : Bool
  /-- Whether dropping an index names its table. -/
  dropIndexNamesTable : Bool
  /-- Whether a deletion lists the tables of its `WITH` clause after `USING`. -/
  deleteListsTables : Bool
  /-- Whether an update lists the tables of its `WITH` clause after `FROM`. -/
  updateListsTables : Bool
  /-- The pattern whose output is the whole literal of a date. -/
  datePattern? : Option String

namespace Dialect

/-- The plain dialect, from which all others are derived. -/
def ansi : Dialect where
  name := "ansi"
  overrides := fun _ => none
  numbersParameters := false
  allowsAnyOnQuery := true
  dropIndexNamesTable := false
  deleteListsTables := false
  updateListsTables := false
  datePattern? := none

/-! ## Texts -/

/-- The text for a key: the one supplied by the dialect, or else the default. -/
def text? (dialect : Dialect) (key : Substitution) : Option String :=
  dialect.overrides key <|> key.defaultText?

/-- The text for a key, empty if there is none. -/
def text (dialect : Dialect) (key : Substitution) : String :=
  (dialect.text? key).getD ""

/-- The dialect with another text for a key. -/
def withText (dialect : Dialect) (key : Substitution) (text : String) : Dialect :=
  { dialect with
    overrides := fun other => if other = key then some text else dialect.overrides other }

@[simp] theorem text?_withText_self (dialect : Dialect) (key : Substitution) (text : String) :
    (dialect.withText key text).text? key = some text := by
  simp [withText, text?]

theorem text?_withText_of_ne (dialect : Dialect) {key other : Substitution} (text : String)
    (hne : other ≠ key) : (dialect.withText key text).text? other = dialect.text? other := by
  simp [withText, text?, hne]

/-- The placeholder at a position, counted from `1`: the marker, and the number
where the dialect asks for it. -/
def placeholder (dialect : Dialect) (position : Nat) : String :=
  if dialect.numbersParameters then
    dialect.text .numberedParameter ++ toString position
  else dialect.text .numberedParameter

/-! ## Dates and literals -/

/-- A date as the dialect's pattern describes it.  There is none if the dialect has
no pattern, if the pattern is not valid or if it asks for a time zone. -/
def formatDate? (dialect : Dialect) (moment : Calendar.DateTime) : Option String := do
  let pattern ← dialect.datePattern?
  moment.format? (← Calendar.Pattern.ofString? pattern)

/-- The literal of a value in a dialect. -/
def literal (dialect : Dialect) : Value → String
  | .bool true => dialect.text .booleanTrue
  | .bool false => dialect.text .booleanFalse
  | .date moment => (dialect.formatDate? moment).getD (singleQuoted moment.text)
  | value => value.literal

/-! ## Names -/

/-- A name, between the dialect's quotes if it holds a space and does not stand
between them already.  Both tests count encoded bytes. -/
def identifier (dialect : Dialect) (name : String) : String :=
  let quote := dialect.text .identifierQuote
  if quote.isEmpty || !name.toList.contains ' ' then name
  else if 2 * quote.utf8ByteSize ≤ name.utf8ByteSize &&
      quote.toList.isPrefixOf name.toList && quote.toList.isSuffixOf name.toList then name
  else quote ++ name ++ quote

/-! ## Checks -/

/-- Checks a pattern for dates on behalf of the dialect of the given name. -/
def checkDatePattern (name pattern : String) : Except Fault Unit :=
  if (Calendar.Pattern.ofString? pattern).isSome then .ok ()
  else .error (.invalidDatePattern name pattern)

/-- Checks that a dialect can be used: its date pattern is valid and its
placeholders have a marker. -/
def check (dialect : Dialect) : Except Fault Unit := do
  match dialect.datePattern? with
  | some pattern => checkDatePattern dialect.name pattern
  | none => pure ()
  if dialect.text .numberedParameter = "" then
    throw (.emptyMarker dialect.name)

end Dialect

end SqlText
