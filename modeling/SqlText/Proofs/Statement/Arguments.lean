import SqlText.Proofs.Statement.Dropped
import SqlText.Proofs.Statement.Names

/-!
# How many arguments a statement takes

Without a marker for names, every parameter that is written leaves a mark
(`Statement.marks?_of_render`).  These are all parameters of the statement but the
dropped ones, and the marks say how many arguments must be given.

That number depends on data as well.  An array of literals that happens to be empty
takes the left operand of its membership test along, and the parameters in it.  Nothing
else about the literals in arrays matters: they can be exchanged for others, and the
marks stay as many (`Statement.written_blank`).
-/

namespace SqlText

/-! ## Arrays without their literals -/

/-- An array of parameters as it is, and of any other only whether it is empty. -/
def Elements.blank : Elements → Elements
  | parameters items => parameters items
  | elements => bools (if elements.operands.isEmpty then [] else [true])

mutual

/-- The operand with blank arrays. -/
def Operand.blank : Operand → Operand
  | .clause clause => .clause clause.blank
  | .value value => .value value
  | .array elements => .array elements.blank
  | .column column => .column column
  | .expression expression => .expression expression
  | .parameter parameter => .parameter parameter
  | .query select => .query select.blank
  | .any select => .any select.blank
  | .all select => .all select.blank

/-- The condition with blank arrays. -/
def Clause.blank : Clause → Clause
  | ⟨condition, left?, right?⟩ => ⟨condition, blankOperand? left?, blankOperand? right?⟩

/-- The query with blank arrays. -/
def Select.blank : Select → Select
  | ⟨table, columns, distinct, groupBy, having?, slots⟩ =>
      ⟨table, blankOperands columns, distinct, groupBy, blankClause? having?, slots.blank⟩

/-- The slots with blank arrays. -/
def Slots.blank : Slots → Slots
  | ⟨filter?, suffix?, tables, problems⟩ =>
      ⟨blankClause? filter?, suffix?, blankTables tables, problems⟩

/-- The named query with blank arrays. -/
def WithTable.blank : WithTable → WithTable
  | ⟨name, select⟩ => ⟨name, select.blank⟩

/-- The operand with blank arrays, if there is one. -/
def blankOperand? : Option Operand → Option Operand
  | none => none
  | some operand => some operand.blank

/-- The condition with blank arrays, if there is one. -/
def blankClause? : Option Clause → Option Clause
  | none => none
  | some clause => some clause.blank

/-- The operands with blank arrays. -/
def blankOperands : List Operand → List Operand
  | [] => []
  | operand :: rest => operand.blank :: blankOperands rest

/-- The named queries with blank arrays. -/
def blankTables : List WithTable → List WithTable
  | [] => []
  | table :: rest => table.blank :: blankTables rest

end

/-- The assignment with blank arrays. -/
def blankAssignment (entry : Column × Operand) : Column × Operand :=
  (entry.1, entry.2.blank)

/-- The insertion with blank arrays. -/
def Insert.blank (insert : Insert) : Insert where
  table := insert.table
  values := insert.values.map blankAssignment
  slots := insert.slots.blank
  values_ne_nil := by simpa using insert.values_ne_nil

/-- The update with blank arrays. -/
def Update.blank (update : Update) : Update where
  table := update.table
  assignments := update.assignments.map blankAssignment
  slots := update.slots.blank
  assignments_ne_nil := by simpa using update.assignments_ne_nil

/-- The statement with blank arrays. -/
def Statement.blank : Statement → Statement
  | select statement => .select statement.blank
  | insert statement => .insert statement.blank
  | update statement => .update statement.blank
  | delete statement => .delete { statement with slots := statement.slots.blank }
  | raw statement => .raw { statement with slots := statement.slots.blank }
  | createIndex statement => .createIndex { statement with slots := statement.slots.blank }
  | dropIndex statement => .dropIndex { statement with slots := statement.slots.blank }

/-! ## Blank statements have the same parameters -/

theorem Elements.written_blank (elements : Elements) : elements.blank.written = elements.written := by
  cases elements <;> rfl

theorem Elements.isEmpty_blank (elements : Elements) :
    elements.blank.operands.isEmpty = elements.operands.isEmpty := by
  have hbools : ∀ empty : Bool,
      (Elements.bools (if empty then [] else [true])).operands.isEmpty = empty := by
    intro empty
    cases empty <;> rfl
  cases elements with
  | parameters items => rfl
  | strings | ints | floats | doubles | bools | dates => exact hbools _

mutual

theorem Operand.written_blank : ∀ operand : Operand, operand.blank.written = operand.written
  | .clause clause => clause.written_blank
  | .query select | .any select | .all select => select.written_blank
  | .value _ | .array _ | .column _ | .expression _ | .parameter _ => rfl

theorem Clause.written_blank : ∀ clause : Clause, clause.blank.written = clause.written
  | ⟨condition, left?, none⟩ => by
      have hleft := written_blankOperand? left?
      simp only [Clause.blank, blankOperand?, Clause.written, hleft]
  | ⟨condition, left?, some right⟩ => by
      have hleft := written_blankOperand? left?
      cases right with
      | array elements =>
          simp only [Clause.blank, blankOperand?, Operand.blank, Clause.written, hleft,
            elements.written_blank, elements.isEmpty_blank]
      | _ =>
          show writtenOfOperand? (blankOperand? left?) ++ _ = writtenOfOperand? left? ++ _
          rw [hleft]
          exact congrArg _ (Operand.written_blank _)

theorem Select.written_blank : ∀ select : Select, select.blank.written = select.written
  | ⟨table, columns, distinct, groupBy, having?, ⟨filter?, suffix?, tables, problems⟩⟩ => by
      simp only [Select.blank, Slots.blank, Select.written, written_blankTables tables,
        written_blankOperands columns, written_blankClause? filter?, written_blankClause? having?]

theorem WithTable.written_blank : ∀ table : WithTable, table.blank.written = table.written
  | ⟨_, select⟩ => select.written_blank

theorem written_blankOperand? : ∀ operand? : Option Operand,
    writtenOfOperand? (blankOperand? operand?) = writtenOfOperand? operand?
  | none => rfl
  | some operand => operand.written_blank

theorem written_blankClause? : ∀ clause? : Option Clause,
    writtenOfClause? (blankClause? clause?) = writtenOfClause? clause?
  | none => rfl
  | some clause => clause.written_blank

theorem written_blankOperands : ∀ operands : List Operand,
    writtenOfOperands (blankOperands operands) = writtenOfOperands operands
  | [] => rfl
  | operand :: rest => by
      rw [blankOperands, writtenOfOperands, writtenOfOperands, operand.written_blank,
        written_blankOperands rest]

theorem written_blankTables : ∀ tables : List WithTable,
    writtenOfTables (blankTables tables) = writtenOfTables tables
  | [] => rfl
  | table :: rest => by
      rw [blankTables, writtenOfTables, writtenOfTables, table.written_blank,
        written_blankTables rest]

end

theorem written_blankAssignments (entries : List (Column × Operand)) :
    writtenOfOperands ((entries.map blankAssignment).map Prod.snd) =
      writtenOfOperands (entries.map Prod.snd) := by
  induction entries with
  | nil => rfl
  | cons entry rest ih =>
      simp only [List.map_cons, writtenOfOperands, ih, blankAssignment, entry.2.written_blank]

namespace Slots

variable (slots : Slots)

theorem written_withTables_blank :
    writtenOfTables slots.blank.withTables = writtenOfTables slots.withTables := by
  obtain ⟨filter?, suffix?, tables, problems⟩ := slots
  exact written_blankTables tables

theorem written_filter?_blank :
    writtenOfClause? slots.blank.filter? = writtenOfClause? slots.filter? := by
  obtain ⟨filter?, suffix?, tables, problems⟩ := slots
  exact written_blankClause? filter?

end Slots

/-- The literals in the arrays of a statement do not matter to the parameters in its
text. -/
theorem Statement.written_blank (statement : Statement) :
    statement.blank.written = statement.written := by
  cases statement with
  | select given => exact given.written_blank
  | insert given =>
      simp only [blank, Insert.blank, written, given.slots.written_withTables_blank,
        written_blankAssignments]
  | update given =>
      simp only [blank, Update.blank, written, given.slots.written_withTables_blank,
        given.slots.written_filter?_blank, written_blankAssignments]
  | delete given | raw given =>
      simp only [blank, written, given.slots.written_withTables_blank,
        given.slots.written_filter?_blank]
  | createIndex given | dropIndex given => rfl

/-! ## Counting marks -/

/-- The number of marks of both kinds in a text, unless a name in it has no end. -/
def marks? (sql : String) : Option Nat :=
  (splitNames? sql.toList).map fun names => countSlots sql + names.2.length

/-- The marks of plain markup are its places. -/
theorem marks?_encode {markup : Markup} (h : markup.Plain) :
    marks? markup.encode = some (markup.countP Piece.isSlot + markup.names.length) := by
  rw [marks?, splitNames?_encode h, countSlots_encode h, Option.map_some, markup.length_splitNames]

variable {dialect : Dialect}

/-- A parameter either has a name or has none. -/
theorem Layout.unnamed_add_names (layout : Layout) :
    layout.unnamed + (layout.parameters.filterMap Parameter.name?).length =
      layout.parameters.length := by
  rw [unnamed]
  induction layout.parameters with
  | nil => rfl
  | cons parameter rest ih =>
      rw [List.countP_cons, List.filterMap_cons, List.length_cons]
      rcases parameter with ⟨_ | name⟩
      · simp only [Option.isNone_none, if_true]
        omega
      · simp only [Option.isNone_some, Bool.false_eq_true, if_false, List.length_cons]
        omega

namespace Statement

variable {statement : Statement} {markup : Markup}

/-- Without a marker for names, a text has a mark for every parameter in it. -/
theorem marks?_of_render (hdialect : dialect.Plain)
    (hmarker : dialect.text? .namedParameter = none) (hstatement : statement.Plain)
    (hrender : statement.render dialect = .ok markup) :
    marks? markup.encode = some statement.written.length := by
  obtain ⟨layout, hreads, rfl⟩ := render_eq_ok_iff.mp hrender
  have hwritten : layout.parameters = statement.written := hreads.parameters_eq
  rw [marks?_encode (hstatement.markup hdialect hreads), layout.countP_markup,
    layout.names_markup hmarker, layout.unnamed_add_names, hwritten]

/-- The marks in a text are as many as the parameters of the statement without the
dropped ones, and stay as many when the literals in arrays are exchanged for others. -/
theorem marks_add_dropped (hdialect : dialect.Plain)
    (hmarker : dialect.text? .namedParameter = none) (hstatement : statement.Plain)
    (hdescribed : statement.Described) (harrays : statement.arraysInPlace = true)
    (hrender : statement.render dialect = .ok markup) :
    ∃ number, marks? markup.encode = some number ∧
      number + statement.dropped.length = statement.parameters.length ∧
      ∀ (other : Statement) (changed : Markup), other.Plain → other.blank = statement.blank →
        other.render dialect = .ok changed → marks? changed.encode = some number := by
  refine ⟨statement.written.length, marks?_of_render hdialect hmarker hstatement hrender, ?_, ?_⟩
  · have hperm := statement.parameters_perm hdescribed.partsFit harrays
    rw [hperm.length_eq, List.length_append]
  · intro other changed hother hblank hchanged
    have hwritten : other.written = statement.written := by
      calc other.written = other.blank.written := other.written_blank.symm
        _ = statement.blank.written := by rw [hblank]
        _ = statement.written := statement.written_blank
    rw [← hwritten]
    exact marks?_of_render hdialect hmarker hother hchanged

end Statement

/-- A deletion with two membership tests.  The array of the first one is empty, that of
the second one has the given numbers. -/
def Delete.sieve (items : List Int) : Delete where
  table := ⟨"users"⟩
  slots := {
    Slots.empty with
    filter? := some (.or
      (.binary (.parameter .unnamed) .notInList (.array (.strings [])))
      (.binary (.parameter (.named "x")) .inList (.array (.ints items)))) }

/-- The first parameter is dropped, and the numbers do not matter to the second one. -/
theorem Statement.marks_add_dropped_sieve :
    ∃ markup changed number,
      (Statement.delete (.sieve [1, 2])).render .postgres = .ok markup ∧
        (Statement.delete (.sieve [3])).render .postgres = .ok changed ∧
        marks? markup.encode = some number ∧ number + 1 = 2 ∧
        marks? changed.encode = some number := by
  have hdescribed : (Statement.delete (.sieve [1, 2])).Described :=
    ⟨.delete ⟨⟨"users"⟩, .empty⟩, [.filter _], .delete _, rfl⟩
  have hrender : (Statement.delete (.sieve [1, 2])).render .postgres = .ok _ := rfl
  obtain ⟨number, hmarks, hsum, hother⟩ :=
    marks_add_dropped (by decide) rfl (by decide) hdescribed (by decide) hrender
  exact ⟨_, _, number, rfl, rfl, hmarks, hsum,
    hother (.delete (.sieve [3])) _ (by decide) rfl rfl⟩

/-- A query for the rows in which an unnamed parameter is among the given numbers. -/
def Select.member (items : List Int) : Select :=
  { Select.of ⟨"users"⟩ with
    slots := {
      Slots.empty with
      filter? := some (.binary (.parameter .unnamed) .inList (.array (.ints items))) } }

/-- Without numbers the parameter is dropped.  With a number it is not. -/
theorem Select.marks_member :
    Dialect.ansi.Plain ∧ Dialect.ansi.text? .namedParameter = none ∧
      (Statement.select (.member [])).Plain ∧ (Statement.select (.member [])).Described ∧
      (Statement.select (.member [])).arraysInPlace = true ∧
      (∃ markup, (Statement.select (.member [])).render .ansi = .ok markup ∧
        markup.encode = "SELECT * FROM users WHERE 1=0" ∧
        marks? markup.encode ≠ some (Statement.select (.member [])).parameters.length) ∧
      ∃ markup, (Statement.select (.member [1])).render .ansi = .ok markup ∧
        marks? markup.encode = some (Statement.select (.member [])).parameters.length :=
  ⟨by decide, rfl, by decide, ⟨.select (.of ⟨"users"⟩), [.filter _], .select _, rfl⟩, by decide,
    ⟨_, rfl, rfl, by decide⟩, ⟨_, rfl, by decide⟩⟩

end SqlText
