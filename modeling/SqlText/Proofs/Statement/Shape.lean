import SqlText.Proofs.Statement.Reads

/-!
# Shapes that can be written

Nothing is checked when operands, clauses and queries are put together, so a tree may
have shapes that no text belongs to.  `isWellShaped` says on the tree alone which shapes
are fine, and writing succeeds for these and for no others
(`Statement.isOk_render`).

```text
operands of a clause   operators              further condition
right                  EXISTS, NOT EXISTS     -
left                   IS NULL, IS NOT NULL   -
left and right         BETWEEN, NOT BETWEEN   right is an array of two elements
left and right         IN, NOT IN             right is a query or an array
left and right         all others             -
```

The operands that are listed have to be well-shaped themselves, and so do the elements
of arrays.  An array in another place has no text of its own, and its elements are not
looked at there.  A statement has to be free of refused steps.
-/

namespace SqlText

/-! ## Well-shaped trees -/

/-- Whether a value can be written: only strings are checked. -/
def Value.isWellShaped : Value → Bool
  | .string content => !Text.hasReserved content
  | _ => true

/-- Whether a parameter can be written: only names are checked. -/
def Parameter.isWellShaped : Parameter → Bool
  | ⟨none⟩ => true
  | ⟨some name⟩ => name != "" && !Text.hasReserved name

/-- Whether each element of an array can be written. -/
def Elements.areWellShaped : Elements → Bool
  | strings items => items.all fun item => (Value.string item).isWellShaped
  | parameters items => items.all Parameter.isWellShaped
  | _ => true

/-- Whether an operand is an array of two elements that can be written. -/
def Operand.isRange : Operand → Bool
  | .array elements => elements.length == 2 && elements.areWellShaped
  | _ => false

mutual

/-- Whether an operand is well-shaped in a dialect. -/
def Operand.isWellShaped (dialect : Dialect) : Operand → Bool
  | .clause clause => clause.isWellShaped dialect
  | .value value => value.isWellShaped
  | .parameter parameter => parameter.isWellShaped
  | .array _ | .column _ | .expression _ => true
  | .query select | .all select => select.isWellShaped dialect
  | .any select => dialect.allowsAnyOnQuery && select.isWellShaped dialect

/-- Whether a clause is well-shaped in a dialect. -/
def Clause.isWellShaped (dialect : Dialect) : Clause → Bool
  | ⟨_, none, none⟩ => false
  | ⟨condition, none, some right⟩ =>
      (condition == .rowExists || condition == .noRowExists) && right.isWellShaped dialect
  | ⟨condition, some left, none⟩ =>
      (condition == .isNull || condition == .isNotNull) && left.isWellShaped dialect
  | ⟨condition, some left, some right⟩ =>
      left.isWellShaped dialect &&
        match condition with
        | .rowExists | .noRowExists | .isNull | .isNotNull => false
        | .between | .notBetween => right.isRange
        | .inList | .notInList =>
            match right with
            | .query select => select.isWellShaped dialect
            | .array elements => elements.areWellShaped
            | _ => false
        | _ => right.isWellShaped dialect

/-- Whether a query is well-shaped in a dialect. -/
def Select.isWellShaped (dialect : Dialect) : Select → Bool
  | ⟨_, columns, _, _, having?, ⟨filter?, _, tables, problems⟩⟩ =>
      problems.isEmpty && wellShapedTables dialect tables && wellShapedOperands dialect columns &&
        wellShapedClause? dialect filter? && wellShapedClause? dialect having?

/-- Whether a named query is well-shaped in a dialect. -/
def WithTable.isWellShaped (dialect : Dialect) : WithTable → Bool
  | ⟨_, select⟩ => select.isWellShaped dialect

/-- Whether a clause that may be missing is well-shaped in a dialect. -/
def wellShapedClause? (dialect : Dialect) : Option Clause → Bool
  | none => true
  | some clause => clause.isWellShaped dialect

/-- Whether operands are well-shaped in a dialect. -/
def wellShapedOperands (dialect : Dialect) : List Operand → Bool
  | [] => true
  | operand :: rest => operand.isWellShaped dialect && wellShapedOperands dialect rest

/-- Whether named queries are well-shaped in a dialect. -/
def wellShapedTables (dialect : Dialect) : List WithTable → Bool
  | [] => true
  | table :: rest => table.isWellShaped dialect && wellShapedTables dialect rest

end

/-- Whether a statement is well-shaped in a dialect: no step in its description was
refused, and the parts that a statement of its kind has are well-shaped. -/
def Statement.isWellShaped (dialect : Dialect) : Statement → Bool
  | select statement => statement.isWellShaped dialect
  | insert statement =>
      statement.slots.problems.isEmpty &&
        wellShapedOperands dialect (statement.values.map Prod.snd) &&
        wellShapedTables dialect statement.slots.withTables
  | update statement =>
      statement.slots.problems.isEmpty && wellShapedTables dialect statement.slots.withTables &&
        wellShapedOperands dialect (statement.assignments.map Prod.snd) &&
        wellShapedClause? dialect statement.slots.filter?
  | delete statement =>
      statement.slots.problems.isEmpty && wellShapedTables dialect statement.slots.withTables &&
        wellShapedClause? dialect statement.slots.filter?
  | raw statement =>
      statement.slots.problems.isEmpty && wellShapedTables dialect statement.slots.withTables &&
        wellShapedClause? dialect statement.slots.filter?
  | createIndex statement | dropIndex statement => statement.slots.problems.isEmpty

/-- An element is well-shaped if it is as an operand of its own. -/
theorem Elements.areWellShaped_eq (dialect : Dialect) (elements : Elements) :
    elements.areWellShaped = elements.operands.all (Operand.isWellShaped dialect) := by
  cases elements <;>
    simp [areWellShaped, operands, Operand.isWellShaped, Value.isWellShaped, Function.comp_def]

/-! ## Leaves -/

variable {dialect : Dialect}

theorem Value.isOk_render (value : Value) :
    (value.render dialect).isOk = value.isWellShaped := by
  cases value with
  | string content =>
      rw [render, renderString, isWellShaped]
      cases Text.hasReserved content <;> rfl
  | _ => rfl

theorem Parameter.isOk_render (parameter : Parameter) :
    (parameter.render dialect).isOk = parameter.isWellShaped := by
  obtain ⟨_ | name⟩ := parameter
  · rfl
  · rw [render, isWellShaped]
    by_cases hempty : name = ""
    · simp [hempty, Except.isOk, Except.toBool]
    · cases Text.hasReserved name <;> cases dialect.text? .namedParameter <;>
        simp [hempty, Except.isOk, Except.toBool]

theorem Elements.isOk_render (dialect : Dialect) (elements : Elements) :
    (elements.render dialect).isOk = elements.areWellShaped := by
  cases elements with
  | strings items =>
      rw [render, isOk_mapM]
      exact List.all_congr rfl fun item => Value.isOk_render (.string item)
  | parameters items =>
      rw [render, isOk_mapM]
      exact List.all_congr rfl Parameter.isOk_render
  | _ => rfl

theorem Elements.length_of_render_eq_ok {elements : Elements} {markups : List Markup}
    (h : elements.render dialect = .ok markups) : markups.length = elements.length := by
  cases elements with
  | strings items => exact length_of_mapM_eq_ok h
  | parameters items => exact length_of_mapM_eq_ok h
  | ints items | floats items | doubles items | bools items | dates items =>
      obtain rfl := Except.ok.inj h
      exact List.length_map _

theorem Slots.isOk_check (slots : Slots) (kind : StatementKind) :
    (slots.check kind).isOk = slots.problems.isEmpty := by
  rw [check_eq]
  cases slots.problems.isEmpty <;> rfl

/-- The keywords around named queries are no reason to fail. -/
theorem Slots.isOk_renderWith (slots : Slots) :
    (slots.renderWith dialect).isOk = (renderTables dialect slots.withTables).isOk := by
  obtain ⟨_, _, _ | ⟨table, rest⟩, _⟩ := slots
  · rfl
  · exact isOk_bind_pure (renderTables dialect (table :: rest)) _

/-! ## Clauses by the form of their operator -/

section Clauses

variable {condition : Condition} {left right : Operand} {whenEmpty : String}

theorem Clause.isWellShaped_binary (h : condition.form = .binary) :
    Clause.isWellShaped dialect ⟨condition, some left, some right⟩ =
      (left.isWellShaped dialect && right.isWellShaped dialect) := by
  cases condition with
  | isNull | isNotNull | rowExists | noRowExists | between | notBetween | inList | notInList =>
      exact absurd h (by decide)
  | _ => rfl

theorem Clause.isWellShaped_range (h : condition.form = .range) :
    Clause.isWellShaped dialect ⟨condition, some left, some right⟩ =
      (left.isWellShaped dialect && right.isRange) := by
  cases condition with
  | between | notBetween => rfl
  | _ => exact absurd h (by decide)

theorem Clause.isWellShaped_memberOfQuery (h : condition.form = .membership whenEmpty)
    (select : Select) :
    Clause.isWellShaped dialect ⟨condition, some left, some (.query select)⟩ =
      (left.isWellShaped dialect && select.isWellShaped dialect) := by
  cases condition with
  | inList | notInList => rfl
  | _ => cases h

theorem Clause.isWellShaped_memberOfArray (h : condition.form = .membership whenEmpty)
    (elements : Elements) :
    Clause.isWellShaped dialect ⟨condition, some left, some (.array elements)⟩ =
      (left.isWellShaped dialect && elements.areWellShaped) := by
  cases condition with
  | inList | notInList => rfl
  | _ => cases h

/-- There is nothing else to look through. -/
theorem Clause.isWellShaped_member (h : condition.form = .membership whenEmpty)
    (hquery : ∀ select, right ≠ .query select) (harray : ∀ elements, right ≠ .array elements) :
    Clause.isWellShaped dialect ⟨condition, some left, some right⟩ = false := by
  cases right with
  | query select => exact absurd rfl (hquery select)
  | array elements => exact absurd rfl (harray elements)
  | _ =>
      cases condition with
      | inList | notInList => exact Bool.and_false _
      | _ => cases h

theorem Clause.isOk_render_range (h : condition.form = .range) :
    (Clause.render dialect ⟨condition, some left, some right⟩).isOk =
      ((left.render dialect).isOk && right.isRange) := by
  rw [Clause.render_range h]
  refine isOk_bind fun subject _ => ?_
  cases right with
  | array elements =>
      rw [Operand.isRange, ← elements.isOk_render dialect]
      show ((elements.render dialect).map some >>= _).isOk = _
      cases hrender : elements.render dialect with
      | error fault => exact (Bool.and_false _).symm
      | ok markups =>
          -- as many texts as elements, so their shape is that of the array
          have hlength := Elements.length_of_render_eq_ok hrender
          rw [← hlength]
          rcases markups with _ | ⟨low, _ | ⟨high, _ | ⟨next, rest⟩⟩⟩ <;> rfl
  | _ => rfl

theorem Clause.isOk_render_array (h : condition.form = .membership whenEmpty)
    (elements : Elements) :
    (Clause.render dialect ⟨condition, some left, some (.array elements)⟩).isOk =
      ((left.render dialect).isOk && elements.areWellShaped) := by
  rw [Clause.render_member h array_ne_query]
  refine isOk_bind fun subject _ => ?_
  rw [← elements.isOk_render dialect]
  show ((elements.render dialect).map some >>= _).isOk = _
  cases elements.render dialect with
  | error fault => rfl
  | ok markups => cases markups <;> rfl

theorem Clause.isOk_render_member (h : condition.form = .membership whenEmpty)
    (hquery : ∀ select, right ≠ .query select) (harray : ∀ elements, right ≠ .array elements) :
    (Clause.render dialect ⟨condition, some left, some right⟩).isOk = false := by
  rw [Clause.render_member h hquery]
  cases left.render dialect with
  | error fault => rfl
  | ok subject =>
      cases right with
      | array elements => exact absurd rfl (harray elements)
      | _ => rfl

end Clauses

/-! ## Trees -/

mutual

theorem Operand.isOk_render : ∀ operand : Operand,
    (operand.render dialect).isOk = operand.isWellShaped dialect
  | .clause clause => by
      rw [Operand.render, isOk_bind_pure, clause.isOk_render, Operand.isWellShaped]
  | .value value => by
      rw [Operand.render, Recording.ofResult_eq, value.isOk_render, Operand.isWellShaped]
  | .parameter parameter => by
      rw [Operand.render, Recording.ofResult_eq, parameter.isOk_render, Operand.isWellShaped]
  | .array _ | .column _ | .expression _ => by
      rw [Operand.render, Operand.isWellShaped]
      rfl
  | .query select | .all select => by
      rw [Operand.render, isOk_bind_pure, select.isOk_render, Operand.isWellShaped]
  | .any select => by
      have hselect := select.isOk_render
      rw [Operand.render, Operand.isWellShaped]
      cases dialect.allowsAnyOnQuery with
      | true => rw [if_pos rfl, isOk_bind_pure, hselect, Bool.true_and]
      | false => rfl

theorem Clause.isOk_render : ∀ clause : Clause,
    (clause.render dialect).isOk = clause.isWellShaped dialect
  | ⟨condition, none, none⟩ => by
      rw [Clause.render, Clause.isWellShaped]
      split <;> rfl
  | ⟨condition, none, some right⟩ => by
      have hright := right.isOk_render
      rw [Clause.render, Clause.isWellShaped, ← hright]
      cases condition with
      | rowExists | noRowExists => exact isOk_bind_pure _ _
      | _ => rfl
  | ⟨condition, some left, none⟩ => by
      have hleft := left.isOk_render
      rw [Clause.render, Clause.isWellShaped, ← hleft]
      cases condition with
      | isNull | isNotNull => exact isOk_bind_pure _ _
      | _ => rfl
  | ⟨condition, some left, some right⟩ => by
      have hleft := left.isOk_render
      cases hform : condition.form with
      | before | after =>
          cases condition with
          | rowExists | noRowExists | isNull | isNotNull => exact (Bool.and_false _).symm
          | _ => cases hform
      | binary =>
          rw [Clause.render_binary hform, Clause.isWellShaped_binary hform, ← hleft,
            ← right.isOk_render]
          exact isOk_bind fun _ _ => isOk_bind_pure _ _
      | range => rw [Clause.isOk_render_range hform, Clause.isWellShaped_range hform, hleft]
      | membership whenEmpty =>
          cases right with
          | query select =>
              rw [Clause.render_memberOfQuery hform, Clause.isWellShaped_memberOfQuery hform,
                ← hleft, ← select.isOk_render]
              exact isOk_bind fun _ _ => isOk_bind_pure _ _
          | array elements =>
              rw [Clause.isOk_render_array hform, Clause.isWellShaped_memberOfArray hform, hleft]
          | _ =>
              refine Eq.trans (Clause.isOk_render_member hform ?_ ?_)
                (Clause.isWellShaped_member hform ?_ ?_).symm <;>
                exact fun _ h => nomatch h

theorem Select.isOk_render : ∀ select : Select,
    (select.render dialect).isOk = select.isWellShaped dialect
  | ⟨_, columns, _, _, having?, ⟨filter?, suffix?, tables, problems⟩⟩ => by
      have hfilter := isOk_renderClause? filter? " WHERE "
      have hhaving := isOk_renderClause? having? " HAVING "
      rw [Select.render_eq, Select.isWellShaped, ← isOk_renderTables tables,
        ← isOk_renderOperands columns, ← hfilter, ← hhaving]
      simp only [Bool.and_assoc]
      -- the parts are written one after the other
      refine (isOk_bind fun _ _ => ?_).trans (congrArg (· && _) (Slots.isOk_check _ _))
      refine (isOk_bind fun _ _ => ?_).trans (congrArg (· && _) (Slots.isOk_renderWith _))
      refine isOk_bind fun _ _ => ?_
      rw [Slots.renderFilter_eq]
      exact isOk_bind fun _ _ => isOk_bind_pure _ _

theorem WithTable.isOk_render : ∀ table : WithTable,
    (table.render dialect).isOk = table.isWellShaped dialect
  | ⟨_, select⟩ => by
      rw [WithTable.render, isOk_bind_pure, select.isOk_render, WithTable.isWellShaped]

theorem isOk_renderClause? : ∀ (clause? : Option Clause) (keyword : String),
    (Phrase.render dialect (.condition keyword clause?)).isOk = wellShapedClause? dialect clause?
  | none, _ => rfl
  | some clause, _ => by
      rw [Phrase.render, wellShapedClause?, ← clause.isOk_render]
      exact isOk_bind_pure _ _

theorem isOk_renderOperands : ∀ operands : List Operand,
    (renderOperands dialect operands).isOk = wellShapedOperands dialect operands
  | [] => rfl
  | operand :: rest => by
      rw [renderOperands, wellShapedOperands, ← operand.isOk_render, ← isOk_renderOperands rest]
      exact isOk_bind fun _ _ => isOk_bind_pure _ _

theorem isOk_renderTables : ∀ tables : List WithTable,
    (renderTables dialect tables).isOk = wellShapedTables dialect tables
  | [] => rfl
  | table :: rest => by
      rw [renderTables, wellShapedTables, ← table.isOk_render, ← isOk_renderTables rest]
      exact isOk_bind fun _ _ => isOk_bind_pure _ _

end

theorem Slots.isOk_renderWith_eq (slots : Slots) :
    (slots.renderWith dialect).isOk = wellShapedTables dialect slots.withTables := by
  rw [slots.isOk_renderWith, isOk_renderTables]

theorem Slots.isOk_renderFilter (slots : Slots) :
    (slots.renderFilter dialect).isOk = wellShapedClause? dialect slots.filter? := by
  rw [slots.renderFilter_eq, isOk_renderClause?]

theorem isOk_renderAssignments (assignments : List (Column × Operand)) :
    (renderAssignments dialect assignments).isOk =
      wellShapedOperands dialect (assignments.map Prod.snd) := by
  induction assignments with
  | nil => rfl
  | cons first rest ih =>
      rw [List.map_cons, wellShapedOperands, ← first.2.isOk_render, ← ih]
      exact isOk_bind fun _ _ => isOk_bind_pure _ _

/-- A statement can be written exactly if it is well-shaped. -/
theorem Statement.isOk_render (statement : Statement) :
    (statement.render dialect).isOk = statement.isWellShaped dialect := by
  cases statement with
  | select select => exact select.isOk_render
  | insert insert =>
      rw [isWellShaped, ← isOk_renderOperands, ← insert.slots.isOk_renderWith_eq,
        ← insert.slots.isOk_check .insert, Bool.and_assoc]
      exact isOk_bind fun _ _ => isOk_bind fun _ _ => isOk_bind_pure _ _
  | update update =>
      rw [isWellShaped, ← isOk_renderAssignments, ← update.slots.isOk_renderWith_eq,
        ← update.slots.isOk_renderFilter, ← update.slots.isOk_check .update, Bool.and_assoc,
        Bool.and_assoc]
      exact isOk_bind fun _ _ => isOk_bind fun _ _ => isOk_bind fun _ _ => isOk_bind_pure _ _
  | delete delete =>
      rw [isWellShaped, ← delete.slots.isOk_renderWith_eq, ← delete.slots.isOk_renderFilter,
        ← delete.slots.isOk_check .delete, Bool.and_assoc]
      exact isOk_bind fun _ _ => isOk_bind fun _ _ => isOk_bind_pure _ _
  | raw raw =>
      rw [isWellShaped, ← raw.slots.isOk_renderWith_eq, ← raw.slots.isOk_renderFilter,
        ← raw.slots.isOk_check .raw, Bool.and_assoc]
      exact isOk_bind fun _ _ => isOk_bind fun _ _ => isOk_bind_pure _ _
  | createIndex creation =>
      rw [isWellShaped, ← creation.slots.isOk_check .createIndex]
      exact isOk_bind_pure _ _
  | dropIndex removal =>
      rw [isWellShaped, ← removal.slots.isOk_check .dropIndex]
      exact isOk_bind_pure _ _

/-- Operands, clauses, queries and statements can be written exactly if they are
well-shaped, where an element of an array is looked at as an operand of its own. -/
theorem render_succeeds_iff (dialect : Dialect) :
    (∀ operand : Operand,
        (∃ markup, operand.render dialect = .ok markup) ↔ operand.isWellShaped dialect = true) ∧
      (∀ elements : Elements, elements.areWellShaped = true ↔
        ∀ operand ∈ elements.operands, operand.isWellShaped dialect = true) ∧
      (∀ clause : Clause,
        (∃ markup, clause.render dialect = .ok markup) ↔ clause.isWellShaped dialect = true) ∧
      (∀ select : Select,
        (∃ markup, select.render dialect = .ok markup) ↔ select.isWellShaped dialect = true) ∧
      ∀ statement : Statement,
        (∃ markup, statement.render dialect = .ok markup) ↔
          statement.isWellShaped dialect = true := by
  refine ⟨fun operand => ?_, fun elements => ?_, fun clause => ?_, fun select => ?_,
    fun statement => ?_⟩
  · rw [← isOk_iff, operand.isOk_render]
  · rw [elements.areWellShaped_eq dialect, List.all_eq_true]
  · rw [← isOk_iff, clause.isOk_render]
  · rw [← isOk_iff, select.isOk_render]
  · rw [← isOk_iff, statement.isOk_render]

end SqlText
