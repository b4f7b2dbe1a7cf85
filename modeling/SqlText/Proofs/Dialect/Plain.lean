import SqlText.Column
import SqlText.Proofs.Calendar.Plain

/-!
# What a plain dialect writes

A dialect is plain if its texts and its pattern for dates are.  Everything that it
writes for names and values is then plain, with one condition for each of the two
that come from outside: a name must be plain itself, and so must a string.
-/

namespace SqlText

open Text

/-- No text of the dialect, be it that of a key or its pattern for dates, has a reserved
character. -/
structure Dialect.Plain (dialect : Dialect) : Prop where
  texts : ∀ key text, dialect.text? key = some text → Text.Plain text
  pattern : ∀ pattern, dialect.datePattern? = some pattern → Text.Plain pattern

theorem Dialect.plain_iff {dialect : Dialect} :
    dialect.Plain ↔
      (∀ key ∈ Substitution.keys, ∀ text ∈ dialect.text? key, Text.Plain text) ∧
        ∀ pattern ∈ dialect.datePattern?, Text.Plain pattern := by
  constructor
  · intro h
    exact ⟨fun key _ text htext => h.texts key text htext, h.pattern⟩
  · rintro ⟨htexts, hpattern⟩
    exact ⟨fun key text htext => htexts key (Substitution.mem_keys key) text htext, hpattern⟩

instance (dialect : Dialect) : Decidable dialect.Plain :=
  decidable_of_iff' _ Dialect.plain_iff

/-- Placeholders are plain if their marker is. -/
theorem Dialect.plain_placeholder {dialect : Dialect}
    (h : Text.Plain (dialect.text .numberedParameter)) (position : Nat) :
    Text.Plain (dialect.placeholder position) := by
  unfold Dialect.placeholder
  split
  · exact plain_append.mpr ⟨h, plain_repr position⟩
  · exact h

/-- Placeholders are not empty if their marker is not. -/
theorem Dialect.placeholder_ne_empty {dialect : Dialect}
    (h : dialect.text .numberedParameter ≠ "") (position : Nat) :
    dialect.placeholder position ≠ "" := by
  unfold Dialect.placeholder
  split <;> simp [h]

namespace Dialect.Plain

variable {dialect : Dialect} (h : dialect.Plain)
include h

theorem text (key : Substitution) : Text.Plain (dialect.text key) := by
  unfold Dialect.text
  cases htext : dialect.text? key with
  | none => exact plain_empty
  | some text => exact h.texts key text htext

theorem formatDate? {moment : Calendar.DateTime} {text : String}
    (hformat : dialect.formatDate? moment = some text) : Text.Plain text := by
  obtain ⟨pattern, hpattern, hformat⟩ := Option.bind_eq_some_iff.mp hformat
  obtain ⟨read, hread, hformat⟩ := Option.bind_eq_some_iff.mp hformat
  exact Calendar.DateTime.plain_of_format? (h.pattern pattern hpattern) hread hformat

/-- Literals are plain, those of strings if the strings are. -/
theorem literal {value : Value} (hvalue : ∀ content, value = .string content → Text.Plain content) :
    Text.Plain (dialect.literal value) := by
  have hquote : Text.Plain "'" := by decide
  cases value with
  | string content =>
      simp [Dialect.literal, Value.literal, singleQuoted, hquote, hvalue content rfl]
  | int number => exact plain_toString_int number
  | float number => exact number.plain_text
  | double number => exact number.plain_text
  | bool truth => cases truth <;> exact h.text _
  | date moment =>
      simp only [Dialect.literal]
      cases hformat : dialect.formatDate? moment with
      | none => simp [singleQuoted, hquote, moment.plain_text]
      | some text => exact h.formatDate? hformat

theorem identifier {name : String} (hname : Text.Plain name) :
    Text.Plain (dialect.identifier name) := by
  simp only [Dialect.identifier]
  split
  · exact hname
  · split
    · exact hname
    · simp [hname, h.text]

end Dialect.Plain

/-! ## Columns and their expressions -/

/-- Both names of a column are plain. -/
def Column.Plain (column : Column) : Prop :=
  Text.Plain column.table ∧ Text.Plain column.name

/-- The columns of an expression. -/
def ColumnExpression.columns : ColumnExpression → List Column
  | now | countAll => []
  | upper column | lower column | cast column _ | qualified column | count column => [column]

namespace Dialect.Plain

variable {dialect : Dialect} (h : dialect.Plain)
include h

theorem columnText {column : Column} (hcolumn : column.Plain) :
    Text.Plain (column.text dialect) :=
  h.identifier hcolumn.2

theorem listText {columns : List Column} (hcolumns : ∀ column ∈ columns, column.Plain) :
    Text.Plain (Column.listText columns dialect) := by
  refine plain_intercalate (by decide) fun text htext => ?_
  obtain ⟨column, hcolumn, rfl⟩ := List.mem_map.mp htext
  exact h.columnText (hcolumns column hcolumn)

theorem expressionText {expression : ColumnExpression}
    (hcolumns : ∀ column ∈ expression.columns, column.Plain) :
    Text.Plain (expression.text dialect) := by
  have hopen : Text.Plain "(" := by decide
  have hclose : Text.Plain ")" := by decide
  cases expression with
  | now => exact h.text _
  | upper column | lower column =>
      simp [ColumnExpression.text, h.text, hopen, hclose,
        h.columnText (hcolumns column (List.mem_singleton_self _))]
  | cast column type =>
      have hcast : Text.Plain "CAST(" := by decide
      have has : Text.Plain " AS " := by decide
      simp [ColumnExpression.text, ColumnType.text, h.text, hcast, has, hclose,
        h.columnText (hcolumns column (List.mem_singleton_self _))]
  | qualified column =>
      have hcolumn := hcolumns column (List.mem_singleton_self _)
      have hdot : Text.Plain "." := by decide
      simp [ColumnExpression.text, Column.qualifiedText, hdot, h.identifier hcolumn.1,
        h.identifier hcolumn.2]
  | count column =>
      have hcount : Text.Plain "COUNT(" := by decide
      simp [ColumnExpression.text, hcount, hclose,
        h.columnText (hcolumns column (List.mem_singleton_self _))]
  | countAll =>
      show Text.Plain "COUNT(*)"
      decide

end Dialect.Plain

end SqlText
