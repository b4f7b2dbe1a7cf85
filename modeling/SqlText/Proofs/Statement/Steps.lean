import SqlText.Statement.Basic

/-!
# Statements that were described step by step

A statement starts without parts and gets them in steps (`Statement.Described`).  The
steps that there are depend on its kind, but its slots do not: an insertion has a slot
for a filter that no step of it can fill, and a statement about an index has slots for
everything and can only get a suffix.  Such parts would not be written, and
`Statement.PartsFit` says that they are missing.
-/

namespace SqlText

/-! ## Slots -/

namespace Slots

variable (slots : Slots)

@[simp] theorem filter?_setSuffix (suffix : String) :
    (slots.setSuffix suffix).filter? = slots.filter? := by
  unfold setSuffix
  split <;> rfl

@[simp] theorem withTables_setSuffix (suffix : String) :
    (slots.setSuffix suffix).withTables = slots.withTables := by
  unfold setSuffix
  split <;> rfl

@[simp] theorem filter?_setWith (tables : List WithTable) :
    (slots.setWith tables).filter? = slots.filter? := by
  unfold setWith
  split <;> rfl

end Slots

/-- No step fills the filter of an insertion. -/
theorem Insert.filter?_after? {insert next : Insert} {step : Step}
    (h : insert.after? step = some next) : next.slots.filter? = insert.slots.filter? := by
  cases step with
  | filter clause | having clause | columns columns | distinct | groupBy columns => cases h
  | suffix text =>
      obtain rfl := Option.some.inj h
      exact insert.slots.filter?_setSuffix text
  | withTables tables =>
      obtain rfl := Option.some.inj h
      exact insert.slots.filter?_setWith tables
  | set column value =>
      obtain rfl := Option.some.inj h
      rfl

/-- The only step of a statement about an index gives it a suffix. -/
theorem IndexStatement.parts_after? {statement next : IndexStatement} {step : Step}
    (h : statement.after? step = some next) :
    next.slots.filter? = statement.slots.filter? ∧
      next.slots.withTables = statement.slots.withTables := by
  cases step with
  | suffix text =>
      obtain rfl := Option.some.inj h
      exact ⟨statement.slots.filter?_setSuffix text, statement.slots.withTables_setSuffix text⟩
  | filter clause | having clause | withTables tables | set column value | columns columns
  | distinct | groupBy columns => cases h

namespace Statement

/-! ## Descriptions -/

/-- A statement before its first step. -/
inductive Fresh : Statement → Prop
  | select (table : Table) : Fresh (.select (.of table))
  | insert {table : Table} {values : List (Column × Operand)} {insert : Insert}
      (hvalues : Insert.of table values = .ok insert) : Fresh (.insert insert)
  | update {table : Table} {assignments : List (Column × Operand)} {update : Update}
      (hassignments : Update.of table assignments = .ok update) : Fresh (.update update)
  | delete (table : Table) : Fresh (.delete ⟨table, .empty⟩)
  | raw (sql : String) (tables : List Table) : Fresh (.raw ⟨sql, tables, .empty⟩)
  | createIndex (index : Index) : Fresh (.createIndex ⟨index, .empty⟩)
  | dropIndex (index : Index) : Fresh (.dropIndex ⟨index, .empty⟩)

/-- A statement that steps lead to. -/
def Described (statement : Statement) : Prop :=
  ∃ start steps, Fresh start ∧ start.afterAll? steps = some statement

variable {statement next : Statement} {step : Step}

theorem Fresh.slots_eq (h : statement.Fresh) : statement.slots = .empty := by
  cases h with
  | select | delete | raw | createIndex | dropIndex => rfl
  | insert hvalues =>
      unfold Insert.of at hvalues
      split at hvalues
      · cases hvalues
      · obtain rfl := Except.ok.inj hvalues
        rfl
  | update hassignments =>
      unfold Update.of at hassignments
      split at hassignments
      · cases hassignments
      · obtain rfl := Except.ok.inj hassignments
        rfl

/-- What holds at first and is kept by every step holds of every statement that steps
lead to. -/
theorem Described.of_step {motive : Statement → Prop}
    (hfresh : ∀ {start}, Fresh start → motive start)
    (hstep : ∀ {statement step next}, motive statement → statement.after? step = some next →
      motive next)
    (h : statement.Described) : motive statement := by
  obtain ⟨start, steps, hstart, hsteps⟩ := h
  have hmotive := hfresh hstart
  clear hstart
  induction steps generalizing start with
  | nil =>
      obtain rfl : start = statement := Option.some.inj hsteps
      exact hmotive
  | cons step rest ih =>
      rw [afterAll?, List.foldlM_cons] at hsteps
      obtain ⟨next, hnext, hrest⟩ := Option.bind_eq_some_iff.mp hsteps
      exact ih next hrest (hstep hmotive hnext)

/-! ## Parts of each kind -/

/-- A statement has no parts that would not be written. -/
def PartsFit : Statement → Prop
  | insert statement => statement.slots.filter? = none
  | createIndex statement | dropIndex statement =>
      statement.slots.filter? = none ∧ statement.slots.withTables = []
  | select _ | update _ | delete _ | raw _ => True

theorem Fresh.partsFit (h : statement.Fresh) : statement.PartsFit := by
  have hslots := h.slots_eq
  cases h with
  | select | update | delete | raw => trivial
  | insert =>
      change _ = Slots.empty at hslots
      exact congrArg Slots.filter? hslots
  | createIndex | dropIndex => exact ⟨rfl, rfl⟩

/-- A step leaves alone what is not written. -/
theorem PartsFit.after? (h : statement.PartsFit) (hstep : statement.after? step = some next) :
    next.PartsFit := by
  cases statement with
  | select given | update given | delete given | raw given =>
      obtain ⟨result, -, rfl⟩ := Option.map_eq_some_iff.mp hstep
      trivial
  | insert given =>
      obtain ⟨result, hresult, rfl⟩ := Option.map_eq_some_iff.mp hstep
      exact (Insert.filter?_after? hresult).trans h
  | createIndex given | dropIndex given =>
      obtain ⟨result, hresult, rfl⟩ := Option.map_eq_some_iff.mp hstep
      obtain ⟨hfilter, htables⟩ := IndexStatement.parts_after? hresult
      exact ⟨hfilter.trans h.1, htables.trans h.2⟩

theorem Described.partsFit (h : statement.Described) : statement.PartsFit :=
  h.of_step Fresh.partsFit PartsFit.after?

end Statement

end SqlText
