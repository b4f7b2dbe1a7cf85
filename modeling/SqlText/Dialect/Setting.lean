import SqlText.Dialect.Presets

/-!
# Changing a dialect

A setting is one change to a dialect.  Settings are applied in order, each to the
outcome of the one before; only a date pattern is checked on the way, and a
pattern that is not valid leaves the dialect as it was.
-/

namespace SqlText

/-- A change to a dialect. -/
inductive Setting
  | text (key : Substitution) (text : String)
  /-- The marker of numbered placeholders and whether numbers follow it. -/
  | numberedParameters (marker : String) (numbers : Bool)
  | allowsAnyOnQuery (allowed : Bool)
  | dropIndexNamesTable (required : Bool)
  | deleteListsTables (required : Bool)
  | updateListsTables (required : Bool)
  | datePattern (pattern : String)
deriving DecidableEq, Repr

namespace Dialect

/-- The dialect with a setting applied. -/
def apply (dialect : Dialect) : Setting → Except Fault Dialect
  | .text key text => .ok (dialect.withText key text)
  | .numberedParameters marker numbers =>
      .ok { dialect.withText .numberedParameter marker with numbersParameters := numbers }
  | .allowsAnyOnQuery allowed => .ok { dialect with allowsAnyOnQuery := allowed }
  | .dropIndexNamesTable required => .ok { dialect with dropIndexNamesTable := required }
  | .deleteListsTables required => .ok { dialect with deleteListsTables := required }
  | .updateListsTables required => .ok { dialect with updateListsTables := required }
  | .datePattern pattern => do
      checkDatePattern dialect.name pattern
      return { dialect with datePattern? := some pattern }

/-- The dialect with settings applied in order.  A setting that fails is skipped. -/
def applyAll (dialect : Dialect) (settings : List Setting) : Dialect :=
  settings.foldl (fun dialect setting => (dialect.apply setting).toOption.getD dialect) dialect

end Dialect

end SqlText
