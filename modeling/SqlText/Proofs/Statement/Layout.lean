import SqlText.Proofs.Dialect.Plain
import SqlText.Proofs.Statement.Sequence
import SqlText.Statement.Build

/-!
# How statements read

Writing a statement gives pieces in which a parameter is already a mark or a named
placeholder.  The rules of `Reads` say the same one step earlier: a phrase reads as
a sequence of fixed texts and parameters, its layout, and what a parameter looks
like is left to the dialect.

```text
phrase             reads as
entry              an operand, an assignment, or a named query
entries            the entries, with commas between
clause             its operands around its operator
condition          a keyword and a clause, or nothing
withTables         the named queries in front of a statement
select, statement  all of these, in the order of the text
```

Writing succeeds exactly for phrases that have a layout, and what it gives is the
markup of that layout (`Statement.render_eq_ok_iff`).  Whatever holds of every text
is therefore shown by induction on `Reads`, with one case for each rule and without
the failures of `render`.
-/

namespace SqlText

/-! ## Layouts -/

/-- A part of a text: fixed, or whatever stands for a parameter. -/
inductive Fragment
  | fixed (text : String)
  | parameter (parameter : Parameter)
deriving DecidableEq, Repr

/-- The parts of a text, in order. -/
abbrev Layout := List Fragment

namespace Layout

/-- Fixed text. -/
def fixed (text : String) : Layout :=
  [.fixed text]

/-- The parameters of a layout, in order. -/
@[simp] def parameters : Layout → List Parameter
  | [] => []
  | .fixed _ :: rest => parameters rest
  | .parameter parameter :: rest => parameter :: parameters rest

@[simp] theorem parameters_fixed (text : String) : (fixed text).parameters = [] := rfl

@[simp] theorem parameters_append (first second : Layout) :
    (first ++ second : Layout).parameters = first.parameters ++ second.parameters := by
  induction first with
  | nil => rfl
  | cons fragment rest ih => cases fragment <;> simp [ih]

end Layout

namespace Parameter

/-- The name of a parameter, if it has one, can be written. -/
def Usable (parameter : Parameter) : Prop :=
  ∀ name, parameter.name? = some name → name ≠ "" ∧ Text.Plain name

/-- What is written for a parameter. -/
def markup (dialect : Dialect) : Parameter → Markup
  | ⟨none⟩ => [.slot]
  | ⟨some name⟩ =>
      match dialect.text? .namedParameter with
      | some marker => .text (marker ++ name)
      | none => [.named name]

theorem render_eq_ok_iff {dialect : Dialect} {parameter : Parameter} {markup : Markup} :
    parameter.render dialect = .ok markup ↔
      parameter.Usable ∧ parameter.markup dialect = markup := by
  obtain ⟨_ | name⟩ := parameter
  · simp [render, Usable, Parameter.markup]
  · simp only [render, Usable, Parameter.markup, Text.Plain, Option.some.injEq, forall_eq']
    split
    · simp_all
    · split
      · simp_all
      · split <;> simp_all

end Parameter

/-- What is written for a part of a text. -/
def Fragment.markup (dialect : Dialect) : Fragment → Markup
  | .fixed text => .text text
  | .parameter given => given.markup dialect

namespace Layout

/-- What is written for a layout. -/
def markup (dialect : Dialect) (layout : Layout) : Markup :=
  layout.flatMap (Fragment.markup dialect)

variable {dialect : Dialect}

@[simp] theorem markup_nil : markup dialect [] = [] := rfl

@[simp] theorem markup_fixed (text : String) : (fixed text).markup dialect = .text text := rfl

theorem markup_cons (fragment : Fragment) (rest : Layout) :
    markup dialect (fragment :: rest) = fragment.markup dialect ++ rest.markup dialect :=
  rfl

@[simp] theorem markup_parameter (parameter : Parameter) :
    markup dialect [.parameter parameter] = parameter.markup dialect := by
  simp [markup, Fragment.markup]

@[simp] theorem markup_append (first second : Layout) :
    (first ++ second : Layout).markup dialect = first.markup dialect ++ second.markup dialect := by
  simp [markup]

end Layout

open Layout (fixed)

/-! ## Parts without parameters -/

namespace Slots

/-- The suffix after a space. -/
def suffixLayout (slots : Slots) : Layout :=
  match slots.suffix? with
  | some suffix => fixed (" " ++ suffix)
  | none => []

/-- The names of the tables of the `WITH` clause after a keyword. -/
def namesLayout (slots : Slots) (dialect : Dialect) (keyword : String) : Layout :=
  match slots.withTables with
  | [] => []
  | tables => fixed (" " ++ keyword ++ " " ++
      ", ".intercalate (tables.map fun table => dialect.identifier table.name))

@[simp] theorem markup_suffixLayout (slots : Slots) (dialect : Dialect) :
    slots.suffixLayout.markup dialect = slots.renderSuffix := by
  unfold suffixLayout renderSuffix
  cases slots.suffix? <;> rfl

@[simp] theorem markup_namesLayout (slots : Slots) (dialect : Dialect) (keyword : String) :
    (slots.namesLayout dialect keyword).markup dialect = slots.renderNames dialect keyword := by
  unfold namesLayout renderNames
  cases slots.withTables <;> rfl

theorem check_eq_ok_iff {slots : Slots} {kind : StatementKind} :
    slots.check kind = .ok () ↔ slots.problems = [] := by
  rw [check_eq]
  split <;> simp_all

end Slots

/-- The grouping of a query. -/
def groupingLayout (dialect : Dialect) : List Column → Layout
  | [] => []
  | columns => fixed (" GROUP BY " ++ Column.listText columns dialect)

@[simp] theorem markup_groupingLayout (dialect : Dialect) (columns : List Column) :
    (groupingLayout dialect columns).markup dialect = renderGrouping dialect columns := by
  cases columns <;> rfl

/-! ## The rules -/

/-- One of several things with commas between them. -/
inductive Entry
  | operand (operand : Operand)
  | assignment (column : Column) (value : Operand)
  | table (table : WithTable)

/-- A part of a statement that has a text of its own. -/
inductive Phrase
  | entry (entry : Entry)
  | entries (entries : List Entry)
  | clause (clause : Clause)
  /-- A clause after a keyword, or nothing. -/
  | condition (keyword : String) (clause? : Option Clause)
  | withTables (tables : List WithTable)
  | select (select : Select)
  | statement (statement : Statement)

/-- Operands as entries. -/
def entriesOf (operands : List Operand) : List Entry :=
  operands.map .operand

/-- How phrases read in a dialect. -/
inductive Reads (dialect : Dialect) : Phrase → Layout → Prop
  -- operands
  | nested {clause inner} : Reads dialect (.clause clause) inner →
      Reads dialect (.entry (.operand (.clause clause))) (fixed "(" ++ inner ++ fixed ")")
  | value {value} : (∀ content, value = .string content → Text.Plain content) →
      Reads dialect (.entry (.operand (.value value))) (fixed (dialect.literal value))
  | array {elements} : Reads dialect (.entry (.operand (.array elements))) []
  | column {column} :
      Reads dialect (.entry (.operand (.column column))) (fixed (column.text dialect))
  | expression {expression} :
      Reads dialect (.entry (.operand (.expression expression))) (fixed (expression.text dialect))
  | parameter {parameter} : parameter.Usable →
      Reads dialect (.entry (.operand (.parameter parameter))) [.parameter parameter]
  | query {select inner} : Reads dialect (.select select) inner →
      Reads dialect (.entry (.operand (.query select))) (fixed "(" ++ inner ++ fixed ")")
  | any {select inner} : dialect.allowsAnyOnQuery = true → Reads dialect (.select select) inner →
      Reads dialect (.entry (.operand (.any select)))
        (fixed (dialect.text .any ++ " (") ++ inner ++ fixed ")")
  | all {select inner} : Reads dialect (.select select) inner →
      Reads dialect (.entry (.operand (.all select)))
        (fixed (dialect.text .all ++ " (") ++ inner ++ fixed ")")
  -- other entries, and lists of them
  | assignment {column value inner} : Reads dialect (.entry (.operand value)) inner →
      Reads dialect (.entry (.assignment column value))
        (fixed (column.text dialect ++ " = ") ++ inner)
  | table {name select inner} : Reads dialect (.select select) inner →
      Reads dialect (.entry (.table ⟨name, select⟩))
        (fixed (dialect.identifier name ++ " AS (") ++ inner ++ fixed ")")
  | none : Reads dialect (.entries []) []
  | one {entry layout} : Reads dialect (.entry entry) layout →
      Reads dialect (.entries [entry]) layout
  | more {entry next rest layout others} : Reads dialect (.entry entry) layout →
      Reads dialect (.entries (next :: rest)) others →
      Reads dialect (.entries (entry :: next :: rest)) (layout ++ fixed ", " ++ others)
  -- clauses
  | before {condition right inner} : condition.form = .before →
      Reads dialect (.entry (.operand right)) inner →
      Reads dialect (.clause ⟨condition, .none, some right⟩)
        (fixed (condition.text ++ " ") ++ inner)
  | after {condition left inner} : condition.form = .after →
      Reads dialect (.entry (.operand left)) inner →
      Reads dialect (.clause ⟨condition, some left, .none⟩)
        (inner ++ fixed (" " ++ condition.text))
  | binary {condition left right subject object} : condition.form = .binary →
      Reads dialect (.entry (.operand left)) subject →
      Reads dialect (.entry (.operand right)) object →
      Reads dialect (.clause ⟨condition, some left, some right⟩)
        (subject ++ fixed (" " ++ condition.text ++ " ") ++ object)
  | range {condition left elements low high subject start stop} : condition.form = .range →
      elements.operands = [low, high] →
      Reads dialect (.entry (.operand left)) subject →
      Reads dialect (.entry (.operand low)) start →
      Reads dialect (.entry (.operand high)) stop →
      Reads dialect (.clause ⟨condition, some left, some (.array elements)⟩)
        (subject ++ fixed (" " ++ condition.text ++ " ") ++ start ++ fixed " AND " ++ stop)
  | memberOfQuery {condition whenEmpty left select subject inner} :
      condition.form = .membership whenEmpty →
      Reads dialect (.entry (.operand left)) subject → Reads dialect (.select select) inner →
      Reads dialect (.clause ⟨condition, some left, some (.query select)⟩)
        (subject ++ fixed (" " ++ condition.text ++ " (") ++ inner ++ fixed ")")
  -- the left operand has to be readable, but it is not part of the text
  | memberOfNothing {condition whenEmpty left elements subject} :
      condition.form = .membership whenEmpty → elements.operands = [] →
      Reads dialect (.entry (.operand left)) subject →
      Reads dialect (.clause ⟨condition, some left, some (.array elements)⟩) (fixed whenEmpty)
  | memberOfList {condition whenEmpty left elements subject items} :
      condition.form = .membership whenEmpty → elements.operands ≠ [] →
      Reads dialect (.entry (.operand left)) subject →
      Reads dialect (.entries (entriesOf elements.operands)) items →
      Reads dialect (.clause ⟨condition, some left, some (.array elements)⟩)
        (subject ++ fixed (" " ++ condition.text ++ " (") ++ items ++ fixed ")")
  -- parts of statements
  | absent {keyword} : Reads dialect (.condition keyword .none) []
  | present {keyword clause inner} : Reads dialect (.clause clause) inner →
      Reads dialect (.condition keyword (some clause)) (fixed keyword ++ inner)
  | withoutTables : Reads dialect (.withTables []) []
  | withTables {tables items} : tables ≠ [] → Reads dialect (.entries (tables.map .table)) items →
      Reads dialect (.withTables tables) (fixed "WITH " ++ items ++ fixed " ")
  | select {table columns distinct groupBy having? slots head items filter having} :
      slots.problems = [] → Reads dialect (.withTables slots.withTables) head →
      Reads dialect (.entries (entriesOf columns)) items →
      Reads dialect (.condition " WHERE " slots.filter?) filter →
      Reads dialect (.condition " HAVING " having?) having →
      Reads dialect (.select ⟨table, columns, distinct, groupBy, having?, slots⟩)
        (head ++ fixed ("SELECT " ++ if distinct then "DISTINCT " else "") ++
          (if columns.isEmpty then fixed "*" else items) ++
          fixed (" FROM " ++ table.text dialect) ++ filter ++ groupingLayout dialect groupBy ++
          having ++ slots.suffixLayout)
  -- statements
  | selectStatement {select layout} : Reads dialect (.select select) layout →
      Reads dialect (.statement (.select select)) layout
  | insertStatement {insert : Insert} {head values} : insert.slots.problems = [] →
      Reads dialect (.withTables insert.slots.withTables) head →
      Reads dialect (.entries (entriesOf (insert.values.map Prod.snd))) values →
      Reads dialect (.statement (.insert insert))
        (head ++ fixed ("INSERT INTO " ++ insert.table.text dialect ++ " (" ++
            Column.listText (insert.values.map Prod.fst) dialect ++ ") VALUES (") ++
          values ++ fixed ")" ++ insert.slots.suffixLayout)
  | updateStatement {update : Update} {head assignments filter} : update.slots.problems = [] →
      Reads dialect (.withTables update.slots.withTables) head →
      Reads dialect (.entries (update.assignments.map fun entry => .assignment entry.1 entry.2))
        assignments →
      Reads dialect (.condition " WHERE " update.slots.filter?) filter →
      Reads dialect (.statement (.update update))
        (head ++ fixed ("UPDATE " ++ update.table.text dialect ++ " SET ") ++ assignments ++
          (if dialect.updateListsTables then update.slots.namesLayout dialect "FROM" else []) ++
          filter ++ update.slots.suffixLayout)
  | deleteStatement {delete : Delete} {head filter} : delete.slots.problems = [] →
      Reads dialect (.withTables delete.slots.withTables) head →
      Reads dialect (.condition " WHERE " delete.slots.filter?) filter →
      Reads dialect (.statement (.delete delete))
        (head ++ fixed ("DELETE FROM " ++ delete.table.text dialect) ++
          (if dialect.deleteListsTables then delete.slots.namesLayout dialect "USING" else []) ++
          filter ++ delete.slots.suffixLayout)
  | rawStatement {raw : Raw} {head filter} : raw.slots.problems = [] →
      Reads dialect (.withTables raw.slots.withTables) head →
      Reads dialect (.condition " WHERE " raw.slots.filter?) filter →
      Reads dialect (.statement (.raw raw))
        (head ++ fixed raw.sql ++ filter ++ raw.slots.suffixLayout)
  | createIndexStatement {creation : IndexStatement} : creation.slots.problems = [] →
      Reads dialect (.statement (.createIndex creation))
        (fixed ("CREATE " ++ (if creation.index.unique then "UNIQUE " else "") ++ "INDEX " ++
            dialect.identifier creation.index.name ++ " ON " ++
            creation.index.table.text dialect ++ " (" ++
            Column.listText creation.index.columns dialect ++ ")") ++ creation.slots.suffixLayout)
  | dropIndexStatement {removal : IndexStatement} : removal.slots.problems = [] →
      Reads dialect (.statement (.dropIndex removal))
        (fixed ("DROP INDEX " ++ dialect.identifier removal.index.name ++
            if dialect.dropIndexNamesTable then " ON " ++ removal.index.table.text dialect
            else "") ++ removal.slots.suffixLayout)

end SqlText
