import SqlText.Proofs.Statement.Tells

/-!
# The settings that writing reads

A dialect is used only through its settings: the text that it has for each key, whether
it supplies this text or leaves it at the default, its pattern for dates, and the answers
to its questions.  The question how the tables of a `WITH` clause are listed is only asked
of the two kinds of statements that list them, and only if there is such a clause.  The
name of a dialect stands in a single message.

Two runs are compared: the same statement is written in two dialects with the same
settings.  Texts of leaves are equal because each is made from the settings
(`Dialect.Agrees`).  Above the leaves the two runs go on alike, as long as each step has the
same outcome (`SameOutcome.bind`), for the value that the one hands on is the value that
the other hands on.
-/

namespace SqlText

open Markup (text joined)

/-! ## Dialects with the same settings -/

/-- The dialects have the same settings, except for how they list the tables of a `WITH`
clause. -/
structure Dialect.Agrees (first second : Dialect) : Prop where
  texts : ∀ key, first.text? key = second.text? key
  pattern : first.datePattern? = second.datePattern?
  numbers : first.numbersParameters = second.numbersParameters
  allowsAny : first.allowsAnyOnQuery = second.allowsAnyOnQuery
  namesTable : first.dropIndexNamesTable = second.dropIndexNamesTable

namespace Dialect.Agrees

variable {first second : Dialect} (h : first.Agrees second)
include h

theorem text (key : Substitution) : first.text key = second.text key := by
  unfold Dialect.text
  rw [h.texts key]

theorem placeholder (position : Nat) :
    first.placeholder position = second.placeholder position := by
  unfold Dialect.placeholder
  rw [h.numbers, h.text]

theorem formatDate? (moment : Calendar.DateTime) :
    first.formatDate? moment = second.formatDate? moment := by
  unfold Dialect.formatDate?
  rw [h.pattern]

theorem literal (value : Value) : first.literal value = second.literal value := by
  cases value with
  | bool truth => cases truth <;> exact h.text _
  | date moment => rw [Dialect.literal, Dialect.literal, h.formatDate?]
  | _ => rfl

theorem identifier (name : String) : first.identifier name = second.identifier name := by
  unfold Dialect.identifier
  rw [h.text]

/-! ### Tables and columns -/

theorem tableText (table : Table) : table.text first = table.text second :=
  h.identifier table.name

theorem columnText (column : Column) : column.text first = column.text second :=
  h.identifier column.name

theorem listText (columns : List Column) :
    Column.listText columns first = Column.listText columns second := by
  unfold Column.listText
  rw [List.map_congr_left fun column _ => h.columnText column]

theorem expressionText (expression : ColumnExpression) :
    expression.text first = expression.text second := by
  cases expression with
  | now => exact h.text _
  | upper column | lower column =>
      rw [ColumnExpression.text, ColumnExpression.text, h.text, h.columnText]
  | cast column type =>
      rw [ColumnExpression.text, ColumnExpression.text, h.columnText, ColumnType.text,
        ColumnType.text, h.text]
  | qualified column =>
      rw [ColumnExpression.text, ColumnExpression.text, Column.qualifiedText,
        Column.qualifiedText, h.identifier, h.identifier]
  | count column => rw [ColumnExpression.text, ColumnExpression.text, h.columnText]
  | countAll => rfl

/-! ### Leaves -/

theorem renderString : renderString first = renderString second := by
  funext content
  rw [SqlText.renderString, SqlText.renderString, h.literal]

theorem renderValue (value : Value) : value.render first = value.render second := by
  cases value with
  | string content => exact congrFun h.renderString content
  | _ => exact congrArg (fun written => Except.ok (Markup.text written)) (h.literal _)

theorem renderParameter : Parameter.render first = Parameter.render second := by
  funext parameter
  obtain ⟨_ | name⟩ := parameter
  · rfl
  · rw [Parameter.render, Parameter.render, h.texts]

theorem renderElements (operand : Operand) :
    operand.renderElements first = operand.renderElements second := by
  have helements : ∀ elements : Elements, elements.render first = elements.render second := by
    intro elements
    cases elements with
    | strings items => rw [Elements.render, Elements.render, h.renderString]
    | parameters items => rw [Elements.render, Elements.render, h.renderParameter]
    | _ => simp only [Elements.render, h.literal]
  simp only [Operand.renderElements, helements]

theorem renderGrouping (columns : List Column) :
    renderGrouping first columns = renderGrouping second columns := by
  cases columns with
  | nil => rfl
  | cons column rest => rw [SqlText.renderGrouping, SqlText.renderGrouping, h.listText] <;> simp

theorem renderNames (slots : Slots) (keyword : String) :
    slots.renderNames first keyword = slots.renderNames second keyword := by
  unfold Slots.renderNames
  rw [funext h.identifier]

/-- Tables are listed alike if the question is not asked or has the same answer. -/
theorem renderListed {slots : Slots} {keyword : String} {lists listsToo : Bool}
    (hlists : slots.withTables ≠ [] → lists = listsToo) :
    (if lists then slots.renderNames first keyword else []) =
      if listsToo then slots.renderNames second keyword else [] := by
  rw [h.renderNames]
  by_cases htables : slots.withTables = []
  · -- without a `WITH` clause nothing is listed either way
    have hnone : slots.renderNames second keyword = [] := by
      rw [Slots.renderNames, htables]
    rw [hnone, ite_self, ite_self]
  · rw [hlists htables]

/-! ### Placeholders -/

theorem numberSlots (sql : String) : numberSlots first sql = numberSlots second sql := by
  have hfill : ∀ (fragments : List (List Char)) (position : Nat),
      fillSlots first position fragments = fillSlots second position fragments := by
    intro fragments
    induction fragments with
    | nil => intro position; rfl
    | cons fragment rest ih =>
        intro position
        rw [fillSlots, fillSlots, h.placeholder, ih]
  simp only [SqlText.numberSlots, hfill]

theorem resolveNames (sql : String) : resolveNames first sql = resolveNames second sql := by
  have hfill : ∀ (names : List (List Char × List Char)) (position : Nat),
      fillNames first position names = fillNames second position names := by
    intro names
    induction names with
    | nil => intro position; rfl
    | cons entry rest ih =>
        intro position
        rw [fillNames, fillNames, h.placeholder, ih]
  simp only [SqlText.resolveNames, hfill]

end Dialect.Agrees

/-! ## Two runs with the same outcome -/

/-- Whether a fault leaves out the name of the dialect that it was found in. -/
def Fault.omitsDialect : Fault → Bool
  | anyUnsupported _ | invalidDatePattern _ _ | emptyMarker _ => false
  | _ => true

theorem Fault.omitsDialect_of_isOfText {fault : Fault} (h : fault.isOfText = true) :
    fault.omitsDialect = true := by
  cases fault <;> first | rfl | cases h

/-- Two runs, one in each of two dialects, have the same outcome: the same value, or the
same fault.  Only the fault that `ANY` is not supported names the dialect, and it names the
one that it was found in. -/
inductive SameOutcome (first second : Dialect) {α : Type} :
    Except Fault α → Except Fault α → Prop
  | ok (value : α) : SameOutcome first second (.ok value) (.ok value)
  | error {fault : Fault} (h : fault.omitsDialect = true) :
      SameOutcome first second (.error fault) (.error fault)
  | anyUnsupported : SameOutcome first second (.error (.anyUnsupported first.name))
      (.error (.anyUnsupported second.name))

namespace SameOutcome

variable {first second : Dialect} {α β : Type}

theorem refl {result : Except Fault α} (h : FailsWith Fault.omitsDialect result) :
    SameOutcome first second result result := by
  cases result with
  | ok value => exact .ok value
  | error fault => exact .error (h fault rfl)

/-- A run that only fails because of a text has the same outcome as the same run. -/
theorem ofText {result : Except Fault α} (h : FailsWith Fault.isOfText result) :
    SameOutcome first second result result :=
  .refl (h.imp Fault.omitsDialect_of_isOfText)

theorem bind {result other : Except Fault α} {next after : α → Except Fault β}
    (hresult : SameOutcome first second result other)
    (hnext : ∀ value, SameOutcome first second (next value) (after value)) :
    SameOutcome first second (result >>= next) (other >>= after) := by
  cases hresult with
  | ok value => exact hnext value
  | error h => exact .error h
  | anyUnsupported => exact .anyUnsupported

theorem check (slots : Slots) (kind : StatementKind) :
    SameOutcome first second (slots.check kind) (slots.check kind) := by
  rw [Slots.check_eq]
  split
  · exact .ok ()
  · exact .error rfl

/-- What was written the same way is put into the same text. -/
theorem wrap {result other : Except Fault α} {change changeToo : α → β}
    (hresult : SameOutcome first second result other)
    (hchange : ∀ value, change value = changeToo value) :
    SameOutcome first second (result >>= fun value => Pure.pure (change value))
      (other >>= fun value => Pure.pure (changeToo value)) := by
  refine hresult.bind fun value => ?_
  rw [hchange]
  exact .ok _

end SameOutcome

/-! ## Statements -/

section Trees

variable {first second : Dialect}

theorem sameOutcome_range (h : first.Agrees second) {condition : Condition} {left right : Operand}
    (hform : condition.form = .range)
    (hleft : SameOutcome first second (left.render first) (left.render second)) :
    SameOutcome first second (Clause.render first ⟨condition, some left, some right⟩)
      (Clause.render second ⟨condition, some left, some right⟩) := by
  rw [Clause.render_range hform, Clause.render_range hform, h.renderElements]
  refine hleft.bind fun _ => SameOutcome.bind (.ofText right.failsWith_text_elements) fun _ => ?_
  split
  · exact .ok _
  · exact .error rfl
  · exact .error rfl

theorem sameOutcome_member (h : first.Agrees second) {condition : Condition}
    {left right : Operand} {whenEmpty : String} (hform : condition.form = .membership whenEmpty)
    (hquery : ∀ select, right ≠ .query select)
    (hleft : SameOutcome first second (left.render first) (left.render second)) :
    SameOutcome first second (Clause.render first ⟨condition, some left, some right⟩)
      (Clause.render second ⟨condition, some left, some right⟩) := by
  rw [Clause.render_member hform hquery, Clause.render_member hform hquery, h.renderElements]
  refine hleft.bind fun _ => SameOutcome.bind (.ofText right.failsWith_text_elements) fun _ => ?_
  split
  · exact .ok _
  · exact .ok _
  · exact .error rfl

mutual

theorem Operand.sameOutcome (h : first.Agrees second) : ∀ operand : Operand,
    SameOutcome first second (operand.render first) (operand.render second)
  | .clause clause => by
      rw [Operand.render, Operand.render]
      exact (clause.sameOutcome h).wrap fun _ => rfl
  | .value value => by
      rw [Operand.render, Operand.render, h.renderValue]
      exact .ofText value.failsWith_text
  | .array _ => by
      rw [Operand.render, Operand.render]
      exact .ok []
  | .column column => by
      rw [Operand.render, Operand.render, h.columnText]
      exact .ok _
  | .expression expression => by
      rw [Operand.render, Operand.render, h.expressionText]
      exact .ok _
  | .parameter parameter => by
      rw [Operand.render, Operand.render, h.renderParameter]
      exact .ofText parameter.failsWith_text
  | .query select => by
      rw [Operand.render, Operand.render]
      exact (select.sameOutcome h).wrap fun _ => rfl
  | .any select => by
      rw [Operand.render, Operand.render, h.allowsAny, h.text]
      split
      · exact (select.sameOutcome h).wrap fun _ => rfl
      · -- the one place where a name of a dialect is read
        exact .anyUnsupported
  | .all select => by
      rw [Operand.render, Operand.render, h.text]
      exact (select.sameOutcome h).wrap fun _ => rfl

theorem Clause.sameOutcome (h : first.Agrees second) : ∀ clause : Clause,
    SameOutcome first second (clause.render first) (clause.render second)
  | ⟨condition, none, none⟩ => by
      rw [Clause.render, Clause.render]
      split <;> exact .error rfl
  | ⟨condition, none, some right⟩ => by
      rw [Clause.render, Clause.render]
      split
      · exact (right.sameOutcome h).wrap fun _ => rfl
      · exact .error rfl
  | ⟨condition, some left, none⟩ => by
      rw [Clause.render, Clause.render]
      split
      · exact (left.sameOutcome h).wrap fun _ => rfl
      · exact .error rfl
  | ⟨condition, some left, some right⟩ => by
      cases hform : condition.form with
      | before | after =>
          rw [Clause.render, Clause.render, hform]
          exact .error rfl
      | binary =>
          rw [Clause.render_binary hform, Clause.render_binary hform]
          exact (left.sameOutcome h).bind fun _ => (right.sameOutcome h).wrap fun _ => rfl
      | range => exact sameOutcome_range h hform (left.sameOutcome h)
      | membership whenEmpty =>
          cases right with
          | query select =>
              rw [Clause.render_memberOfQuery hform, Clause.render_memberOfQuery hform]
              exact (left.sameOutcome h).bind fun _ => (select.sameOutcome h).wrap fun _ => rfl
          | _ =>
              exact sameOutcome_member h hform (fun _ hquery => nomatch hquery) (left.sameOutcome h)

theorem Select.sameOutcome (h : first.Agrees second) : ∀ select : Select,
    SameOutcome first second (select.render first) (select.render second)
  | ⟨table, columns, distinct, groupBy, having?, slots⟩ => by
      rw [Select.render_eq, Select.render_eq]
      refine (SameOutcome.check _ _).bind fun _ => ?_
      refine (slots.sameOutcome_with h).bind fun _ => ?_
      refine (sameOutcome_operands h columns).bind fun _ => ?_
      refine (slots.sameOutcome_filter h).bind fun _ => ?_
      rw [h.tableText, h.renderGrouping]
      cases having? with
      | none => exact .ok _
      | some clause =>
          rw [Phrase.render, Phrase.render]
          exact ((clause.sameOutcome h).wrap fun _ => rfl).wrap fun _ => rfl

theorem Slots.sameOutcome_with (h : first.Agrees second) : ∀ slots : Slots,
    SameOutcome first second (slots.renderWith first) (slots.renderWith second)
  | ⟨_, _, [], _⟩ => .ok []
  | ⟨_, _, table :: rest, _⟩ => (sameOutcome_tables h (table :: rest)).wrap fun _ => rfl

theorem Slots.sameOutcome_filter (h : first.Agrees second) : ∀ slots : Slots,
    SameOutcome first second (slots.renderFilter first) (slots.renderFilter second)
  | ⟨none, _, _, _⟩ => .ok []
  | ⟨some clause, _, _, _⟩ => by
      rw [Slots.renderFilter, Slots.renderFilter]
      exact (clause.sameOutcome h).wrap fun _ => rfl

theorem WithTable.sameOutcome (h : first.Agrees second) : ∀ table : WithTable,
    SameOutcome first second (table.render first) (table.render second)
  | ⟨name, select⟩ => by
      rw [WithTable.render, WithTable.render, h.identifier]
      exact (select.sameOutcome h).wrap fun _ => rfl

theorem sameOutcome_operands (h : first.Agrees second) : ∀ operands : List Operand,
    SameOutcome first second (renderOperands first operands) (renderOperands second operands)
  | [] => .ok []
  | operand :: rest =>
      (operand.sameOutcome h).bind fun _ => (sameOutcome_operands h rest).wrap fun _ => rfl

theorem sameOutcome_tables (h : first.Agrees second) : ∀ tables : List WithTable,
    SameOutcome first second (renderTables first tables) (renderTables second tables)
  | [] => .ok []
  | table :: rest =>
      (table.sameOutcome h).bind fun _ => (sameOutcome_tables h rest).wrap fun _ => rfl

end

theorem sameOutcome_assignments (h : first.Agrees second)
    (assignments : List (Column × Operand)) :
    SameOutcome first second (renderAssignments first assignments)
      (renderAssignments second assignments) := by
  induction assignments with
  | nil => exact .ok []
  | cons assignment rest ih =>
      obtain ⟨column, value⟩ := assignment
      rw [renderAssignments, renderAssignments, h.columnText]
      exact (value.sameOutcome h).bind fun _ => ih.wrap fun _ => rfl

end Trees

namespace Statement

/-- The dialects list the tables of the statement's `WITH` clause in the same way, if it has
one and is of a kind that lists them. -/
def ListsAlike (first second : Dialect) : Statement → Prop
  | delete given =>
      given.slots.withTables ≠ [] → first.deleteListsTables = second.deleteListsTables
  | update given =>
      given.slots.withTables ≠ [] → first.updateListsTables = second.updateListsTables
  | _ => True

variable {first second : Dialect} {statement : Statement}

theorem sameOutcome_render (h : first.Agrees second) (hlists : statement.ListsAlike first second) :
    SameOutcome first second (statement.render first) (statement.render second) := by
  cases statement with
  | select given => exact given.sameOutcome h
  | insert given =>
      refine (SameOutcome.check _ _).bind fun _ => ?_
      refine (sameOutcome_operands h _).bind fun _ => ?_
      refine (given.slots.sameOutcome_with h).wrap fun _ => ?_
      rw [h.tableText, h.listText]
  | update given =>
      refine (SameOutcome.check _ _).bind fun _ => ?_
      refine (given.slots.sameOutcome_with h).bind fun _ => ?_
      refine (sameOutcome_assignments h _).bind fun _ => ?_
      refine (given.slots.sameOutcome_filter h).wrap fun _ => ?_
      rw [h.tableText, h.renderListed hlists]
  | delete given =>
      refine (SameOutcome.check _ _).bind fun _ => ?_
      refine (given.slots.sameOutcome_with h).bind fun _ => ?_
      refine (given.slots.sameOutcome_filter h).wrap fun _ => ?_
      rw [h.tableText, h.renderListed hlists]
  | raw given =>
      refine (SameOutcome.check _ _).bind fun _ => ?_
      refine (given.slots.sameOutcome_with h).bind fun _ => ?_
      exact (given.slots.sameOutcome_filter h).wrap fun _ => rfl
  | createIndex given =>
      refine (SameOutcome.check _ _).bind fun _ => ?_
      simp only [h.identifier, h.tableText, h.listText]
      exact .ok _
  | dropIndex given =>
      refine (SameOutcome.check _ _).bind fun _ => ?_
      simp only [h.identifier, h.tableText, h.namesTable]
      exact .ok _

theorem sameOutcome_build (h : first.Agrees second) (hlists : statement.ListsAlike first second) :
    SameOutcome first second (statement.build first) (statement.build second) := by
  rw [build_eq, build_eq]
  refine (sameOutcome_render h hlists).bind fun markup => ?_
  rw [h.numberSlots]
  split
  · exact .error rfl
  · exact .ok _

/-- In two dialects with the same settings a statement is written, built and resolved with
the same outcome: there is none that only one of them can write, what comes of it is the
same, and so is what goes wrong.  How the tables of a `WITH` clause are listed only needs to
agree where they can be listed. -/
theorem outcomes_of_agrees (h : first.Agrees second) (hlists : statement.ListsAlike first second) :
    SameOutcome first second (statement.render first) (statement.render second) ∧
      SameOutcome first second (statement.build first) (statement.build second) ∧
      SameOutcome first second (statement.buildNamed first) (statement.buildNamed second) := by
  have hbuild := sameOutcome_build h hlists
  refine ⟨sameOutcome_render h hlists, hbuild, ?_⟩
  rw [buildNamed_eq, buildNamed_eq]
  refine hbuild.bind fun sql => ?_
  rw [h.resolveNames, resolveNames]
  split
  · exact .error rfl
  · exact .ok _

/-- Removes the rows whose identifier is any that a query gives. -/
def removalOfAny : Statement :=
  .delete {
    table := ⟨"users"⟩
    slots := Slots.empty.setFilter
      (.binary (.column ⟨"users", "id"⟩) .equal (.any (Select.of ⟨"orders"⟩))) }

/-- SQLite under another name, with one default spelled out and another way to list the
tables of a `WITH` clause. -/
def otherSqlite : Dialect :=
  { Dialect.sqlite.withText .all "ALL" with name := "other", deleteListsTables := true }

/-- A deletion without a `WITH` clause fails in both dialects, each under its own name. -/
theorem outcomes_of_agrees_removalOfAny :
    removalOfAny.build .sqlite = .error (.anyUnsupported "sqlite") ∧
      removalOfAny.build otherSqlite = .error (.anyUnsupported "other") := by
  have hagrees : Dialect.sqlite.Agrees otherSqlite :=
    ⟨fun key => by cases key <;> rfl, rfl, rfl, rfl, rfl⟩
  have hlists : removalOfAny.ListsAlike .sqlite otherSqlite := fun htables => absurd rfl htables
  have hfirst : removalOfAny.build .sqlite = .error (.anyUnsupported "sqlite") := rfl
  have hbuild := (outcomes_of_agrees hagrees hlists).2.1
  refine ⟨hfirst, ?_⟩
  rw [hfirst] at hbuild
  generalize removalOfAny.build otherSqlite = other at hbuild
  cases hbuild with
  | error homits => cases homits
  | anyUnsupported => rfl

end Statement

end SqlText
