import SqlText.Proofs.Statement.Leaves
import SqlText.Proofs.Statement.Steps

/-!
# Parameters that are dropped

An array has a text only to the right of an operator that takes arrays
(`Statement.arraysInPlace`).  If all arrays of a statement stand there, a parameter can
only be missing in its text for one reason: it is part of the left operand of a
membership test whose array is empty, and the constant text of such a test stands for
the whole of it.  These parameters are `Statement.dropped`.  All others are written,
and each of them once (`Statement.parameters_perm`).
-/

namespace SqlText

/-! ## Arrays in place -/

/-- Whether the right operand of an operator may be an array. -/
def Condition.takesArray (condition : Condition) : Bool :=
  match condition.form with
  | .range | .membership _ => true
  | .before | .after | .binary => false

mutual

/-- Whether an operand is no array itself, and has none in a wrong place. -/
def Operand.arraysInPlace : Operand → Bool
  | .array _ => false
  | .clause clause => clause.arraysInPlace
  | .query select | .any select | .all select => select.arraysInPlace
  | .value _ | .column _ | .expression _ | .parameter _ => true

/-- Whether the arrays of a condition are right operands of operators that take them. -/
def Clause.arraysInPlace : Clause → Bool
  | ⟨condition, left?, some (.array _)⟩ => arraysInPlaceOfOperand? left? && condition.takesArray
  | ⟨_, left?, right?⟩ => arraysInPlaceOfOperand? left? && arraysInPlaceOfOperand? right?

/-- Whether the arrays of a query are in place. -/
def Select.arraysInPlace : Select → Bool
  | ⟨_, columns, _, _, having?, slots⟩ =>
      arraysInPlaceOfOperands columns && arraysInPlaceOfClause? having? && slots.arraysInPlace

/-- Whether the arrays of slots are in place. -/
def Slots.arraysInPlace : Slots → Bool
  | ⟨filter?, _, tables, _⟩ => arraysInPlaceOfClause? filter? && arraysInPlaceOfTables tables

/-- Whether the arrays of a named query are in place. -/
def WithTable.arraysInPlace : WithTable → Bool
  | ⟨_, select⟩ => select.arraysInPlace

/-- Whether an operand that may be missing has its arrays in place. -/
def arraysInPlaceOfOperand? : Option Operand → Bool
  | none => true
  | some operand => operand.arraysInPlace

/-- Whether a condition that may be missing has its arrays in place. -/
def arraysInPlaceOfClause? : Option Clause → Bool
  | none => true
  | some clause => clause.arraysInPlace

/-- Whether the arrays of operands are in place. -/
def arraysInPlaceOfOperands : List Operand → Bool
  | [] => true
  | operand :: rest => operand.arraysInPlace && arraysInPlaceOfOperands rest

/-- Whether the arrays of named queries are in place. -/
def arraysInPlaceOfTables : List WithTable → Bool
  | [] => true
  | table :: rest => table.arraysInPlace && arraysInPlaceOfTables rest

end

/-- Whether the arrays of a statement are right operands of operators that take them. -/
def Statement.arraysInPlace : Statement → Bool
  | select statement => statement.arraysInPlace
  | insert statement =>
      arraysInPlaceOfOperands (statement.values.map Prod.snd) && statement.slots.arraysInPlace
  | update statement =>
      arraysInPlaceOfOperands (statement.assignments.map Prod.snd) &&
        statement.slots.arraysInPlace
  | delete statement => statement.slots.arraysInPlace
  | raw statement => statement.slots.arraysInPlace
  | createIndex statement | dropIndex statement => statement.slots.arraysInPlace

/-! ## What empty arrays drop -/

mutual

/-- The parameters in an operand that empty arrays drop. -/
def Operand.dropped : Operand → List Parameter
  | .clause clause => clause.dropped
  | .query select | .any select | .all select => select.dropped
  | .value _ | .array _ | .column _ | .expression _ | .parameter _ => []

/-- The parameters in a condition that empty arrays drop.  A membership test with an
empty array drops its left operand. -/
def Clause.dropped : Clause → List Parameter
  | ⟨condition, left?, some (.array elements)⟩ =>
      match condition.form with
      | .membership _ =>
          if elements.operands.isEmpty then (leavesOfOperand? left?).parameters
          else droppedOfOperand? left?
      | _ => droppedOfOperand? left?
  | ⟨_, left?, right?⟩ => droppedOfOperand? left? ++ droppedOfOperand? right?

/-- The parameters in a query that empty arrays drop. -/
def Select.dropped : Select → List Parameter
  | ⟨_, columns, _, _, having?, slots⟩ =>
      droppedOfOperands columns ++ droppedOfClause? having? ++ slots.dropped

/-- The parameters in slots that empty arrays drop. -/
def Slots.dropped : Slots → List Parameter
  | ⟨filter?, _, tables, _⟩ => droppedOfClause? filter? ++ droppedOfTables tables

/-- The parameters in a named query that empty arrays drop. -/
def WithTable.dropped : WithTable → List Parameter
  | ⟨_, select⟩ => select.dropped

/-- The parameters that empty arrays drop in an operand that may be missing. -/
def droppedOfOperand? : Option Operand → List Parameter
  | none => []
  | some operand => operand.dropped

/-- The parameters that empty arrays drop in a condition that may be missing. -/
def droppedOfClause? : Option Clause → List Parameter
  | none => []
  | some clause => clause.dropped

/-- The parameters in operands that empty arrays drop. -/
def droppedOfOperands : List Operand → List Parameter
  | [] => []
  | operand :: rest => operand.dropped ++ droppedOfOperands rest

/-- The parameters in named queries that empty arrays drop. -/
def droppedOfTables : List WithTable → List Parameter
  | [] => []
  | table :: rest => table.dropped ++ droppedOfTables rest

end

/-- The parameters in a statement that empty arrays drop. -/
def Statement.dropped : Statement → List Parameter
  | select statement => statement.dropped
  | insert statement =>
      droppedOfOperands (statement.values.map Prod.snd) ++ statement.slots.dropped
  | update statement =>
      droppedOfOperands (statement.assignments.map Prod.snd) ++ statement.slots.dropped
  | delete statement => statement.slots.dropped
  | raw statement => statement.slots.dropped
  | createIndex statement | dropIndex statement => statement.slots.dropped

/-! ## Written or dropped -/

@[simp] theorem parameters_column_leaves (column : Column) :
    column.leaves.parameters = [] :=
  rfl

@[simp] theorem parameters_columns_leaves (columns : List Column) :
    Layout.parameters (columns.flatMap Column.leaves) = [] := by
  induction columns with
  | nil => rfl
  | cons column rest ih =>
      rw [List.flatMap_cons, Layout.parameters_append, ih]
      rfl

@[simp] theorem parameters_suffix_leaves (suffix? : Option String) :
    Layout.parameters (suffix?.toList.map .fixed) = [] := by
  cases suffix? <;> rfl

theorem parameters_assignments_leaves (assignments : List (Column × Operand)) :
    Layout.parameters (assignments.flatMap fun entry => entry.1.leaves ++ entry.2.leaves) =
      (leavesOfOperands (assignments.map Prod.snd)).parameters := by
  induction assignments with
  | nil => rfl
  | cons entry rest ih =>
      simp only [List.flatMap_cons, List.map_cons, leavesOfOperands, Layout.parameters_append,
        parameters_column_leaves, List.nil_append, ih]

/-- An array without elements has no parameters. -/
theorem Elements.written_of_isEmpty {elements : Elements} (h : elements.operands.isEmpty = true) :
    elements.written = [] := by
  have hwritten := elements.flatMap_written
  rw [List.isEmpty_iff.mp h] at hwritten
  exact hwritten.symm

section Count

variable (parameter : Parameter)

/-- For a condition with an array, it is enough to look at its left operand. -/
theorem Clause.count_leaves_array {condition : Condition} {left? : Option Operand}
    {elements : Elements} (hcondition : condition.takesArray = true)
    (hleft : (leavesOfOperand? left?).parameters.count parameter =
      (writtenOfOperand? left?).count parameter + (droppedOfOperand? left?).count parameter) :
    (Clause.leaves ⟨condition, left?, some (.array elements)⟩).parameters.count parameter =
      (Clause.written ⟨condition, left?, some (.array elements)⟩).count parameter +
        (Clause.dropped ⟨condition, left?, some (.array elements)⟩).count parameter := by
  have hleaves : (Clause.leaves ⟨condition, left?, some (.array elements)⟩).parameters =
      (leavesOfOperand? left?).parameters ++ elements.written := by
    simp
  rw [hleaves, List.count_append, Clause.written, Clause.dropped]
  cases hform : condition.form with
  | before | after | binary => simp [Condition.takesArray, hform] at hcondition
  | range =>
      simp only [List.count_append]
      omega
  | membership whenEmpty =>
      by_cases hempty : elements.operands.isEmpty = true
      · -- nothing is written, and the whole left operand is dropped
        simp only [if_pos hempty, Elements.written_of_isEmpty hempty, List.count_nil]
        omega
      · simp only [if_neg hempty, List.count_append]
        omega

mutual

theorem Operand.count_leaves : ∀ operand : Operand, operand.arraysInPlace = true →
    operand.leaves.parameters.count parameter =
      operand.written.count parameter + operand.dropped.count parameter
  | .clause clause, h => clause.count_leaves h
  | .query select, h | .any select, h | .all select, h => select.count_leaves h
  | .value _, _ => rfl
  | .column _, _ => rfl
  | .expression expression, _ => by
      simp [Operand.dropped]
  | .parameter given, _ => rfl
  | .array _, h => nomatch h

theorem Clause.count_leaves : ∀ clause : Clause, clause.arraysInPlace = true →
    clause.leaves.parameters.count parameter =
      clause.written.count parameter + clause.dropped.count parameter
  | ⟨condition, left?, none⟩, h => by
      have hleft := count_leavesOfOperand? left? (Bool.and_eq_true_iff.mp h).1
      simpa [Clause.written, Clause.dropped, droppedOfOperand?] using hleft
  | ⟨condition, left?, some right⟩, h => by
      cases right with
      | array elements =>
          obtain ⟨hplace, hcondition⟩ := Bool.and_eq_true_iff.mp h
          exact Clause.count_leaves_array parameter hcondition (count_leavesOfOperand? left? hplace)
      | _ =>
          obtain ⟨hplace, hright⟩ := Bool.and_eq_true_iff.mp h
          have hleft := count_leavesOfOperand? left? hplace
          have hright := Operand.count_leaves _ hright
          simp only [Clause.leaves, Clause.written, Clause.dropped, Layout.parameters_append,
            List.count_append, leavesOfOperand?, writtenOfOperand?, droppedOfOperand?]
          omega

theorem Select.count_leaves : ∀ select : Select, select.arraysInPlace = true →
    select.leaves.parameters.count parameter =
      select.written.count parameter + select.dropped.count parameter
  | ⟨table, columns, distinct, groupBy, having?, slots⟩, h => by
      obtain ⟨h, hslots⟩ := Bool.and_eq_true_iff.mp h
      obtain ⟨hcolumns, hhaving⟩ := Bool.and_eq_true_iff.mp h
      have hcolumns := count_leavesOfOperands columns hcolumns
      have hhaving := count_leavesOfClause? having? hhaving
      have hslots := slots.count_leaves hslots
      rw [Select.written_eq]
      simp only [Select.leaves, Select.dropped, Layout.parameters,
        Layout.parameters_append, parameters_columns_leaves, List.append_nil,
        List.count_append]
      omega

theorem Slots.count_leaves : ∀ slots : Slots, slots.arraysInPlace = true →
    slots.leaves.parameters.count parameter =
      (writtenOfTables slots.withTables).count parameter +
        (writtenOfClause? slots.filter?).count parameter + slots.dropped.count parameter
  | ⟨filter?, suffix?, tables, problems⟩, h => by
      obtain ⟨hfilter, htables⟩ := Bool.and_eq_true_iff.mp h
      have hfilter := count_leavesOfClause? filter? hfilter
      have htables := count_leavesOfTables tables htables
      simp only [Slots.leaves, Slots.dropped, Layout.parameters_append,
        parameters_suffix_leaves, List.append_nil, List.count_append]
      omega

theorem WithTable.count_leaves : ∀ table : WithTable, table.arraysInPlace = true →
    table.leaves.parameters.count parameter =
      table.written.count parameter + table.dropped.count parameter
  | ⟨_, select⟩, h => select.count_leaves h

theorem count_leavesOfOperand? : ∀ operand? : Option Operand,
    arraysInPlaceOfOperand? operand? = true →
    (leavesOfOperand? operand?).parameters.count parameter =
      (writtenOfOperand? operand?).count parameter + (droppedOfOperand? operand?).count parameter
  | none, _ => rfl
  | some operand, h => operand.count_leaves h

theorem count_leavesOfClause? : ∀ clause? : Option Clause,
    arraysInPlaceOfClause? clause? = true →
    (leavesOfClause? clause?).parameters.count parameter =
      (writtenOfClause? clause?).count parameter + (droppedOfClause? clause?).count parameter
  | none, _ => rfl
  | some clause, h => clause.count_leaves h

theorem count_leavesOfOperands : ∀ operands : List Operand,
    arraysInPlaceOfOperands operands = true →
    (leavesOfOperands operands).parameters.count parameter =
      (writtenOfOperands operands).count parameter + (droppedOfOperands operands).count parameter
  | [], _ => rfl
  | operand :: rest, h => by
      obtain ⟨hfirst, hrest⟩ := Bool.and_eq_true_iff.mp h
      have hfirst := operand.count_leaves hfirst
      have hrest := count_leavesOfOperands rest hrest
      simp only [leavesOfOperands, writtenOfOperands, droppedOfOperands,
        Layout.parameters_append, List.count_append]
      omega

theorem count_leavesOfTables : ∀ tables : List WithTable,
    arraysInPlaceOfTables tables = true →
    (leavesOfTables tables).parameters.count parameter =
      (writtenOfTables tables).count parameter + (droppedOfTables tables).count parameter
  | [], _ => rfl
  | table :: rest, h => by
      obtain ⟨hfirst, hrest⟩ := Bool.and_eq_true_iff.mp h
      have hfirst := table.count_leaves hfirst
      have hrest := count_leavesOfTables rest hrest
      simp only [leavesOfTables, writtenOfTables, droppedOfTables,
        Layout.parameters_append, List.count_append]
      omega

end

/-- What is not written of a statement is what empty arrays drop. -/
theorem Statement.count_leaves {statement : Statement} (hparts : statement.PartsFit)
    (h : statement.arraysInPlace = true) :
    statement.leaves.parameters.count parameter =
      statement.written.count parameter + statement.dropped.count parameter := by
  cases statement with
  | select given => exact given.count_leaves parameter h
  | insert given =>
      have hfilter : given.slots.filter? = none := hparts
      obtain ⟨hvalues, hslots⟩ := Bool.and_eq_true_iff.mp h
      have hvalues := count_leavesOfOperands parameter _ hvalues
      have hslots := given.slots.count_leaves parameter hslots
      rw [hfilter, writtenOfClause?, List.count_nil] at hslots
      simp only [leaves, written, dropped, Layout.parameters, Layout.parameters_append,
        parameters_columns_leaves, List.nil_append, List.count_append]
      omega
  | update given =>
      obtain ⟨hvalues, hslots⟩ := Bool.and_eq_true_iff.mp h
      have hvalues := count_leavesOfOperands parameter _ hvalues
      have hslots := given.slots.count_leaves parameter hslots
      simp only [leaves, written, dropped, Layout.parameters, Layout.parameters_append,
        parameters_assignments_leaves, List.count_append]
      omega
  | delete given | raw given =>
      have hslots := given.slots.count_leaves parameter h
      simp only [leaves, written, dropped, Layout.parameters, List.count_append]
      omega
  | createIndex given | dropIndex given =>
      obtain ⟨hfilter, htables⟩ := hparts
      have hslots := given.slots.count_leaves parameter h
      rw [hfilter, htables] at hslots
      simpa [dropped] using hslots

end Count

/-- Every parameter of a statement is written once, or dropped with the left operand of
a membership test. -/
theorem Statement.parameters_perm {statement : Statement} (hparts : statement.PartsFit)
    (h : statement.arraysInPlace = true) :
    statement.parameters.Perm (statement.written ++ statement.dropped) := by
  rw [List.perm_iff_count]
  intro parameter
  rw [List.count_append]
  exact count_leaves parameter hparts h

end SqlText
