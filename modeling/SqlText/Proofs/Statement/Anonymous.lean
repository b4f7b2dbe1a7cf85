import SqlText.Proofs.Statement.Names

/-!
# Statements without names

Taking the names away from all parameters of a statement leaves its layout as it is,
up to the names (`Reads.anonymous`).  In a dialect without a marker for names the
marks that were resolved are now numbered, so both ways end with the same text.
-/

namespace SqlText

/-! ## Taking names away -/

/-- The parameter without its name. -/
def Parameter.anonymous (_ : Parameter) : Parameter :=
  .unnamed

/-- The elements of an array, with no names in them. -/
def Elements.anonymous : Elements → Elements
  | parameters items => parameters (items.map Parameter.anonymous)
  | elements => elements

mutual

/-- The operand with no names in it. -/
def Operand.anonymous : Operand → Operand
  | .clause clause => .clause clause.anonymous
  | .value value => .value value
  | .array elements => .array elements.anonymous
  | .column column => .column column
  | .expression expression => .expression expression
  | .parameter parameter => .parameter parameter.anonymous
  | .query select => .query select.anonymous
  | .any select => .any select.anonymous
  | .all select => .all select.anonymous

/-- The condition with no names in it. -/
def Clause.anonymous : Clause → Clause
  | ⟨condition, left?, right?⟩ =>
      ⟨condition, anonymousOperand? left?, anonymousOperand? right?⟩

/-- The query with no names in it. -/
def Select.anonymous : Select → Select
  | ⟨table, columns, distinct, groupBy, having?, slots⟩ =>
      ⟨table, anonymousOperands columns, distinct, groupBy, anonymousClause? having?,
        slots.anonymous⟩

/-- The slots with no names in them. -/
def Slots.anonymous : Slots → Slots
  | ⟨filter?, suffix?, tables, problems⟩ =>
      ⟨anonymousClause? filter?, suffix?, anonymousTables tables, problems⟩

/-- The named query with no names of parameters in it. -/
def WithTable.anonymous : WithTable → WithTable
  | ⟨name, select⟩ => ⟨name, select.anonymous⟩

/-- The operand with no names in it, if there is one. -/
def anonymousOperand? : Option Operand → Option Operand
  | none => none
  | some operand => some operand.anonymous

/-- The condition with no names in it, if there is one. -/
def anonymousClause? : Option Clause → Option Clause
  | none => none
  | some clause => some clause.anonymous

/-- The operands with no names in them. -/
def anonymousOperands : List Operand → List Operand
  | [] => []
  | operand :: rest => operand.anonymous :: anonymousOperands rest

/-- The named queries with no names of parameters in them. -/
def anonymousTables : List WithTable → List WithTable
  | [] => []
  | table :: rest => table.anonymous :: anonymousTables rest

end

/-- The assignment with no names of parameters in it. -/
def anonymousAssignment (entry : Column × Operand) : Column × Operand :=
  (entry.1, entry.2.anonymous)

/-- The insertion with no names of parameters in it. -/
def Insert.anonymous (insert : Insert) : Insert where
  table := insert.table
  values := insert.values.map anonymousAssignment
  slots := insert.slots.anonymous
  values_ne_nil := by simpa using insert.values_ne_nil

/-- The update with no names of parameters in it. -/
def Update.anonymous (update : Update) : Update where
  table := update.table
  assignments := update.assignments.map anonymousAssignment
  slots := update.slots.anonymous
  assignments_ne_nil := by simpa using update.assignments_ne_nil

/-- The statement with no names of parameters in it. -/
def Statement.anonymous : Statement → Statement
  | select statement => .select statement.anonymous
  | insert statement => .insert statement.anonymous
  | update statement => .update statement.anonymous
  | delete statement => .delete { statement with slots := statement.slots.anonymous }
  | raw statement => .raw { statement with slots := statement.slots.anonymous }
  | createIndex statement => .createIndex { statement with slots := statement.slots.anonymous }
  | dropIndex statement => .dropIndex { statement with slots := statement.slots.anonymous }

/-- The entry with no names of parameters in it. -/
def Entry.anonymous : Entry → Entry
  | operand given => .operand given.anonymous
  | assignment column value => .assignment column value.anonymous
  | table given => .table given.anonymous

/-- The phrase with no names of parameters in it. -/
def Phrase.anonymous : Phrase → Phrase
  | entry given => .entry given.anonymous
  | entries given => .entries (given.map Entry.anonymous)
  | clause given => .clause given.anonymous
  | condition keyword clause? => .condition keyword (anonymousClause? clause?)
  | withTables tables => .withTables (anonymousTables tables)
  | select given => .select given.anonymous
  | statement given => .statement given.anonymous

/-- The part of a text with no name of a parameter in it. -/
def Fragment.anonymous : Fragment → Fragment
  | fixed text => .fixed text
  | parameter given => .parameter given.anonymous

/-! ## What does not change -/

@[simp] theorem anonymousOperands_eq (operands : List Operand) :
    anonymousOperands operands = operands.map Operand.anonymous := by
  induction operands with
  | nil => rfl
  | cons operand rest ih => rw [anonymousOperands, ih, List.map_cons]

@[simp] theorem anonymousTables_eq (tables : List WithTable) :
    anonymousTables tables = tables.map WithTable.anonymous := by
  induction tables with
  | nil => rfl
  | cons table rest ih => rw [anonymousTables, ih, List.map_cons]

@[simp] theorem WithTable.name_anonymous (table : WithTable) :
    table.anonymous.name = table.name := by
  cases table
  rfl

theorem Elements.operands_anonymous (elements : Elements) :
    elements.anonymous.operands = elements.operands.map Operand.anonymous := by
  cases elements <;>
    simp [anonymous, operands, Function.comp_def, Operand.anonymous]

theorem map_table (tables : List WithTable) :
    (tables.map Entry.table).map Entry.anonymous = (anonymousTables tables).map Entry.table := by
  simp [Function.comp_def, Entry.anonymous]

theorem map_assignment (assignments : List (Column × Operand)) :
    (assignments.map fun entry => Entry.assignment entry.1 entry.2).map Entry.anonymous =
      (assignments.map anonymousAssignment).map fun entry => .assignment entry.1 entry.2 := by
  simp [Function.comp_def, Entry.anonymous, anonymousAssignment]

theorem map_fst_anonymousAssignment (entries : List (Column × Operand)) :
    (entries.map anonymousAssignment).map Prod.fst = entries.map Prod.fst := by
  simp [Function.comp_def, anonymousAssignment]

theorem map_snd_anonymousAssignment (entries : List (Column × Operand)) :
    (entries.map anonymousAssignment).map Prod.snd =
      (entries.map Prod.snd).map Operand.anonymous := by
  simp [Function.comp_def, anonymousAssignment]

theorem map_entriesOf (operands : List Operand) :
    (entriesOf operands).map Entry.anonymous = entriesOf (operands.map Operand.anonymous) := by
  simp [entriesOf, Function.comp_def, Entry.anonymous]

namespace Slots

variable (slots : Slots)

@[simp] theorem problems_anonymous : slots.anonymous.problems = slots.problems := by
  cases slots
  rfl

@[simp] theorem withTables_anonymous :
    slots.anonymous.withTables = anonymousTables slots.withTables := by
  cases slots
  rfl

@[simp] theorem filter?_anonymous :
    slots.anonymous.filter? = anonymousClause? slots.filter? := by
  cases slots
  rfl

@[simp] theorem suffix?_anonymous : slots.anonymous.suffix? = slots.suffix? := by
  cases slots
  rfl

@[simp] theorem suffixLayout_anonymous :
    slots.anonymous.suffixLayout = slots.suffixLayout := by
  rw [suffixLayout, suffix?_anonymous]
  rfl

@[simp] theorem namesLayout_anonymous (dialect : Dialect) (keyword : String) :
    slots.anonymous.namesLayout dialect keyword = slots.namesLayout dialect keyword := by
  obtain ⟨_, _, _ | ⟨table, rest⟩, _⟩ := slots
  · rfl
  · simp [anonymous, namesLayout, Function.comp_def]

@[simp] theorem map_suffixLayout :
    slots.suffixLayout.map Fragment.anonymous = slots.suffixLayout := by
  unfold suffixLayout
  cases slots.suffix? <;> rfl

@[simp] theorem map_namesLayout (dialect : Dialect) (keyword : String) :
    (slots.namesLayout dialect keyword).map Fragment.anonymous =
      slots.namesLayout dialect keyword := by
  unfold namesLayout
  cases slots.withTables <;> rfl

end Slots

variable {dialect : Dialect} {phrase : Phrase} {layout : Layout}

@[simp] theorem map_groupingLayout (columns : List Column) :
    (groupingLayout dialect columns).map Fragment.anonymous = groupingLayout dialect columns := by
  cases columns <;> rfl

@[simp] theorem map_fixed (text : String) :
    (Layout.fixed text).map Fragment.anonymous = Layout.fixed text :=
  rfl

/-! ## Layouts without names -/

/-- Without names a phrase reads as it did, up to the names. -/
theorem Reads.anonymous (h : Reads dialect phrase layout) :
    Reads dialect phrase.anonymous (layout.map Fragment.anonymous) := by
  induction h with
  | nested _ ih =>
      simp only [List.map_append, map_fixed]
      exact .nested ih
  | query _ ih =>
      simp only [List.map_append, map_fixed]
      exact .query ih
  | any hallowed _ ih =>
      simp only [List.map_append, map_fixed]
      exact .any hallowed ih
  | all _ ih =>
      simp only [List.map_append, map_fixed]
      exact .all ih
  | value hvalue => exact .value hvalue
  | array => exact .array
  | column => exact .column
  | expression => exact .expression
  | parameter => exact .parameter fun _ hname => nomatch hname
  | assignment _ ih =>
      simp only [List.map_append, map_fixed]
      exact .assignment ih
  | table _ ih =>
      simp only [List.map_append, map_fixed]
      exact .table ih
  | none => exact .none
  | one _ ih => exact .one ih
  | more _ _ ihfirst ihrest =>
      simp only [List.map_append, map_fixed]
      exact .more ihfirst ihrest
  | before hform _ ih =>
      simp only [List.map_append, map_fixed]
      exact .before hform ih
  | after hform _ ih =>
      simp only [List.map_append, map_fixed]
      exact .after hform ih
  | binary hform _ _ ihleft ihright =>
      simp only [List.map_append, map_fixed]
      exact .binary hform ihleft ihright
  | @range _ _ elements _ _ _ _ _ hform hoperands _ _ _ ihleft ihlow ihhigh =>
      have hanonymous := elements.operands_anonymous
      rw [hoperands] at hanonymous
      simp only [List.map_append, map_fixed]
      exact .range hform hanonymous ihleft ihlow ihhigh
  | memberOfQuery hform _ _ ihleft ihquery =>
      simp only [List.map_append, map_fixed]
      exact .memberOfQuery hform ihleft ihquery
  | @memberOfNothing _ _ _ elements _ hform hoperands _ ihleft =>
      have hanonymous := elements.operands_anonymous
      rw [hoperands] at hanonymous
      exact .memberOfNothing hform hanonymous ihleft
  | @memberOfList _ _ _ elements _ _ hform hoperands _ _ ihleft ihitems =>
      have hanonymous : elements.anonymous.operands ≠ [] := by
        simpa [elements.operands_anonymous] using hoperands
      rw [Phrase.anonymous, map_entriesOf, ← elements.operands_anonymous] at ihitems
      simp only [List.map_append, map_fixed]
      exact .memberOfList hform hanonymous ihleft ihitems
  | absent => exact .absent
  | present _ ih =>
      simp only [List.map_append, map_fixed]
      exact .present ih
  | withoutTables => exact .withoutTables
  | @withTables tables _ hne _ ih =>
      rw [Phrase.anonymous, map_table] at ih
      simp only [List.map_append, map_fixed]
      exact .withTables (by simpa using hne) ih
  | @select _ columns _ _ _ slots _ _ _ _ hproblems _ _ _ _ ihhead ihitems ihfilter ihhaving =>
      rw [Phrase.anonymous, ← slots.withTables_anonymous] at ihhead
      rw [Phrase.anonymous, map_entriesOf, ← anonymousOperands_eq] at ihitems
      rw [Phrase.anonymous, ← slots.filter?_anonymous] at ihfilter
      -- the rule asks whether there are columns, which does not depend on their names
      have hisEmpty : (anonymousOperands columns).isEmpty = columns.isEmpty := by simp
      rw [← slots.problems_anonymous] at hproblems
      simp only [List.map_append, map_fixed, apply_ite (List.map Fragment.anonymous),
        Slots.map_suffixLayout, map_groupingLayout]
      rw [← hisEmpty, ← slots.suffixLayout_anonymous]
      exact .select hproblems ihhead ihitems ihfilter ihhaving
  | selectStatement _ ih => exact .selectStatement ih
  | @insertStatement insert _ _ hproblems _ _ ihhead ihvalues =>
      rw [Phrase.anonymous, ← insert.slots.withTables_anonymous] at ihhead
      rw [Phrase.anonymous, map_entriesOf, ← map_snd_anonymousAssignment] at ihvalues
      rw [← insert.slots.problems_anonymous] at hproblems
      simp only [List.map_append, map_fixed, Slots.map_suffixLayout]
      rw [← map_fst_anonymousAssignment, ← insert.slots.suffixLayout_anonymous]
      exact .insertStatement hproblems ihhead ihvalues
  | @updateStatement update _ _ _ hproblems _ _ _ ihhead ihassignments ihfilter =>
      rw [Phrase.anonymous, ← update.slots.withTables_anonymous] at ihhead
      rw [Phrase.anonymous, map_assignment] at ihassignments
      rw [Phrase.anonymous, ← update.slots.filter?_anonymous] at ihfilter
      rw [← update.slots.problems_anonymous] at hproblems
      simp only [List.map_append, map_fixed, apply_ite (List.map Fragment.anonymous),
        Slots.map_suffixLayout, Slots.map_namesLayout, List.map_nil]
      rw [← update.slots.suffixLayout_anonymous, ← update.slots.namesLayout_anonymous]
      exact .updateStatement hproblems ihhead ihassignments ihfilter
  | @deleteStatement delete _ _ hproblems _ _ ihhead ihfilter =>
      rw [Phrase.anonymous, ← delete.slots.withTables_anonymous] at ihhead
      rw [Phrase.anonymous, ← delete.slots.filter?_anonymous] at ihfilter
      rw [← delete.slots.problems_anonymous] at hproblems
      simp only [List.map_append, map_fixed, apply_ite (List.map Fragment.anonymous),
        Slots.map_suffixLayout, Slots.map_namesLayout, List.map_nil]
      rw [← delete.slots.suffixLayout_anonymous, ← delete.slots.namesLayout_anonymous]
      exact .deleteStatement hproblems ihhead ihfilter
  | @rawStatement raw _ _ hproblems _ _ ihhead ihfilter =>
      rw [Phrase.anonymous, ← raw.slots.withTables_anonymous] at ihhead
      rw [Phrase.anonymous, ← raw.slots.filter?_anonymous] at ihfilter
      rw [← raw.slots.problems_anonymous] at hproblems
      simp only [List.map_append, map_fixed, Slots.map_suffixLayout]
      rw [← raw.slots.suffixLayout_anonymous]
      exact .rawStatement hproblems ihhead ihfilter
  | @createIndexStatement creation hproblems =>
      rw [← creation.slots.problems_anonymous] at hproblems
      simp only [List.map_append, map_fixed, Slots.map_suffixLayout]
      rw [← creation.slots.suffixLayout_anonymous]
      exact .createIndexStatement hproblems
  | @dropIndexStatement removal hproblems =>
      rw [← removal.slots.problems_anonymous] at hproblems
      simp only [List.map_append, map_fixed, Slots.map_suffixLayout]
      rw [← removal.slots.suffixLayout_anonymous]
      exact .dropIndexStatement hproblems

/-! ## Numbers instead of names -/

namespace Layout

/-- Without names there are no places of names. -/
theorem any_markup_anonymous (layout : Layout) :
    (Layout.markup dialect (layout.map Fragment.anonymous)).any Piece.isNamed = false := by
  induction layout with
  | nil => rfl
  | cons fragment rest ih =>
      rw [List.map_cons, markup_cons, List.any_append, ih, Bool.or_false]
      cases fragment <;> rfl

theorem plain_markup_anonymous (hlayout : (layout.markup dialect).Plain) :
    (Layout.markup dialect (layout.map Fragment.anonymous)).Plain := by
  induction layout with
  | nil => exact Markup.plain_nil
  | cons fragment rest ih =>
      rw [markup_cons, Markup.plain_append] at hlayout
      rw [List.map_cons, markup_cons, Markup.plain_append]
      refine ⟨?_, ih hlayout.2⟩
      cases fragment with
      | fixed text => exact hlayout.1
      | parameter parameter =>
          simp [Fragment.anonymous, Fragment.markup, Parameter.anonymous, Parameter.unnamed,
            Parameter.markup, Piece.Plain]

section AllNamed

variable (hmarker : dialect.text? .namedParameter = none)
  (hnamed : ∀ parameter ∈ layout.parameters, parameter ≠ .unnamed)
include hmarker hnamed

/-- Every place of a name becomes a place to be numbered, and there were no others. -/
theorem fill_markup_anonymous (position : Nat) :
    (Layout.markup dialect (layout.map Fragment.anonymous)).fill dialect Piece.isSlot position =
      (layout.markup dialect).fill dialect Piece.isNamed position := by
  induction layout generalizing position with
  | nil => rfl
  | cons fragment rest ih =>
      rcases fragment with text | ⟨_ | name⟩
      · have hrest := ih hnamed position
        simpa [markup_cons, Fragment.markup, Fragment.anonymous, Markup.text, Markup.fill,
          Piece.isSlot, Piece.isNamed] using hrest
      · exact absurd rfl (hnamed .unnamed (by simp [Parameter.unnamed]))
      · have hrest := ih (fun parameter hparameter => hnamed parameter (by simp [hparameter]))
          (position + 1)
        simpa [markup_cons, Fragment.markup, Fragment.anonymous, Parameter.anonymous,
          Parameter.unnamed, Parameter.markup, hmarker, Markup.fill, Piece.isSlot,
          Piece.isNamed] using hrest

theorem countP_markup_anonymous :
    (Layout.markup dialect (layout.map Fragment.anonymous)).countP Piece.isSlot =
      (layout.markup dialect).names.length := by
  induction layout with
  | nil => rfl
  | cons fragment rest ih =>
      rcases fragment with text | ⟨_ | name⟩
      · have hrest := ih hnamed
        simpa [markup_cons, Fragment.markup, Fragment.anonymous, Markup.text, Markup.names,
          List.countP_cons, List.filterMap_cons, Piece.isSlot, Piece.name?] using hrest
      · exact absurd rfl (hnamed .unnamed (by simp [Parameter.unnamed]))
      · have hrest := ih fun parameter hparameter => hnamed parameter (by simp [hparameter])
        simpa [markup_cons, Fragment.markup, Fragment.anonymous, Parameter.anonymous,
          Parameter.unnamed, Parameter.markup, hmarker, Markup.names, List.countP_cons,
          List.filterMap_cons, Piece.isSlot, Piece.name?] using hrest

end AllNamed

end Layout

/-- Taking the names away and numbering gives the text that resolving the names
gives, with as many placeholders. -/
theorem Statement.build_anonymous {statement : Statement} {named : NamedText}
    (hdialect : dialect.Plain) (hmarker : dialect.text? .namedParameter = none)
    (hstatement : statement.Plain)
    (hnamed : ∀ parameter ∈ statement.parameters, parameter ≠ .unnamed)
    (h : statement.buildNamed dialect = .ok named) :
    statement.anonymous.build dialect = .ok named.text ∧
      ∃ markup, statement.anonymous.render dialect = .ok markup ∧
        named.count = countSlots markup.encode := by
  have hlayout : ∀ {layout}, Reads dialect (.statement statement) layout →
      ∀ parameter ∈ layout.parameters, parameter ≠ .unnamed :=
    fun hreads parameter hparameter => hnamed parameter (hreads.from_leaves parameter hparameter).2
  obtain ⟨layout, hreads, hplain, htext, -, hcount⟩ :=
    exists_of_buildNamed_eq_ok hdialect hstatement hlayout h
  have hrender := hreads.anonymous.render_eq
  have hplain := layout.plain_markup_anonymous hplain
  refine ⟨?_, _, hrender, ?_⟩
  · have hnames := hasNames_encode hplain
    rw [layout.any_markup_anonymous] at hnames
    rw [build_eq]
    refine bind_eq_ok.mpr ⟨_, hrender, ?_⟩
    rw [hnames, numberSlots_encode dialect hplain,
      Layout.fill_markup_anonymous hmarker (hlayout hreads), htext]
    exact if_neg fun hmixed => Bool.false_ne_true hmixed.2
  · rw [countSlots_encode hplain, Layout.countP_markup_anonymous hmarker (hlayout hreads), hcount]

theorem Statement.build_anonymous_sample :
    (Statement.delete .sample).anonymous.build .postgres =
        .ok "DELETE FROM users WHERE (age = $1) AND (rank BETWEEN $2 AND $3)" ∧
      ∃ markup, (Statement.delete .sample).anonymous.render .postgres = .ok markup ∧
        3 = countSlots markup.encode :=
  build_anonymous (by decide) rfl (by decide) (by decide) Delete.buildNamed_sample

end SqlText
