import SqlText.Dialect.Basic
import SqlText.Toml.Document

/-!
# Dialects as tables

A dialect can be described by a table with one entry for each of its parts, and
loaded from such a table or from the text of a TOML document.  Entries that are
missing are taken from the plain dialect, entries that no part has are ignored,
and a dialect that has been loaded has passed its check.
-/

namespace SqlText.Dialect

/-! ## Writing a description -/

/-- The texts that a dialect supplies, by the names of their keys. -/
def describeTexts (dialect : Dialect) : Toml.Table :=
  Substitution.keys.filterMap fun key =>
    (dialect.overrides key).map fun text => (key.name, .string text)

/-- The description of a dialect.  A date pattern appears in it only if the dialect
has one. -/
def describe (dialect : Dialect) : Toml.Table :=
  [("name", .string dialect.name),
    ("substitutions", .table dialect.describeTexts),
    ("add-numbers-to-parameters", .boolean dialect.numbersParameters),
    ("any-on-subquery-supported", .boolean dialect.allowsAnyOnQuery),
    ("drop-index-requires-on-table-name", .boolean dialect.dropIndexNamesTable),
    ("with-delete-requires-using", .boolean dialect.deleteListsTables),
    ("with-update-requires-from", .boolean dialect.updateListsTables)] ++
  match dialect.datePattern? with
  | some pattern => [("date-format", .string pattern)]
  | none => []

/-! ## Loading a description -/

/-- A text of a description. -/
def stringOf : Toml.Value → Except Fault String
  | .string text => .ok text
  | _ => .error .unreadableDialect

/-- A yes-or-no answer of a description. -/
def booleanOf : Toml.Value → Except Fault Bool
  | .boolean truth => .ok truth
  | _ => .error .unreadableDialect

/-- The value of an entry, read by `read`, or `otherwise` if there is none. -/
def entryOr {α : Type} (table : Toml.Table) (key : String) (read : Toml.Value → Except Fault α)
    (otherwise : α) : Except Fault α :=
  match table.lookup key with
  | some value => read value
  | none => .ok otherwise

/-- The texts that a table supplies.  Each of its keys must be the name of a key for
which a dialect supplies a text. -/
def textsOf : Toml.Table → Except Fault (Substitution → Option String)
  | [] => .ok fun _ => none
  | (name, value) :: rest => do
      let some key := Substitution.ofName? name | throw .unreadableDialect
      let text ← stringOf value
      let others ← textsOf rest
      return fun other => if other = key then some text else others other

/-- The texts that a value supplies, which must be a table. -/
def overridesOf : Toml.Value → Except Fault (Substitution → Option String)
  | .table texts => textsOf texts
  | _ => .error .unreadableDialect

/-- The dialect that a table describes, unchecked. -/
def read (table : Toml.Table) : Except Fault Dialect := do
  return {
    name := ← entryOr table "name" stringOf ansi.name
    overrides := ← entryOr table "substitutions" overridesOf ansi.overrides
    numbersParameters :=
      ← entryOr table "add-numbers-to-parameters" booleanOf ansi.numbersParameters
    allowsAnyOnQuery :=
      ← entryOr table "any-on-subquery-supported" booleanOf ansi.allowsAnyOnQuery
    dropIndexNamesTable :=
      ← entryOr table "drop-index-requires-on-table-name" booleanOf ansi.dropIndexNamesTable
    deleteListsTables :=
      ← entryOr table "with-delete-requires-using" booleanOf ansi.deleteListsTables
    updateListsTables :=
      ← entryOr table "with-update-requires-from" booleanOf ansi.updateListsTables
    datePattern? :=
      ← entryOr table "date-format" (fun value => (stringOf value).map some) ansi.datePattern? }

/-- The dialect that a table describes, if it can be used. -/
def ofTable (table : Toml.Table) : Except Fault Dialect := do
  let dialect ← read table
  dialect.check
  return dialect

/-- The dialect that the text of a TOML document describes, if it can be used. -/
def ofToml (text : String) : Except Fault Dialect :=
  match Toml.parse? text with
  | some table => ofTable table
  | none => .error .unreadableDialect

end SqlText.Dialect
