import SqlText.Proofs.Statement.Reads

/-!
# What statements are made of

The leaves of a statement are what comes from outside without being a value: names
of tables, columns, indexes and named queries, given texts, and parameters.  They
are collected from the whole statement, whether or not they appear in its text.
`written` only collects the parameters that do, in the order of the text:

* the left operand of a membership test disappears when the array is empty;
* the elements of an array only appear in ranges and membership tests;
* the `WITH` clause comes first.

Neither depends on a dialect.  What a dialect does with the parameters is found in
their markup.
-/

namespace SqlText

open Layout (fixed)

/-! ## Leaves -/

/-- The fixed texts of a layout, in order. -/
@[simp] def Layout.texts : Layout → List String
  | [] => []
  | .fixed text :: rest => text :: texts rest
  | .parameter _ :: rest => texts rest

@[simp] theorem Layout.texts_append (first second : Layout) :
    (first ++ second : Layout).texts = first.texts ++ second.texts := by
  induction first with
  | nil => rfl
  | cons fragment rest ih => cases fragment <;> simp [ih]

@[simp] theorem Layout.texts_map_parameter (parameters : List Parameter) :
    Layout.texts (parameters.map .parameter) = [] := by
  induction parameters with
  | nil => rfl
  | cons parameter rest ih => exact ih

@[simp] theorem Layout.parameters_map_parameter (parameters : List Parameter) :
    Layout.parameters (parameters.map .parameter) = parameters := by
  induction parameters with
  | nil => rfl
  | cons parameter rest ih => simp [ih]

/-! Fixed texts around a layout do not change its parameters. -/

namespace Layout

theorem parameters_behind (front : String) (layout : Layout) :
    (fixed front ++ layout : Layout).parameters = layout.parameters :=
  rfl

theorem parameters_followed (layout : Layout) (back : String) :
    (layout ++ fixed back : Layout).parameters = layout.parameters := by
  rw [parameters_append, parameters_fixed, List.append_nil]

theorem parameters_between (front : String) (layout : Layout) (back : String) :
    (fixed front ++ layout ++ fixed back : Layout).parameters = layout.parameters :=
  parameters_followed _ back

end Layout

/-- The names of a column and of its table. -/
def Column.leaves (column : Column) : Layout :=
  [.fixed column.table, .fixed column.name]

/-- The parameters of an array. -/
def Elements.written : Elements → List Parameter
  | parameters items => items
  | _ => []

mutual

/-- The leaves of an operand. -/
@[simp] def Operand.leaves : Operand → Layout
  | .clause clause => clause.leaves
  | .value _ => []
  | .array elements => elements.written.map .parameter
  | .column column => column.leaves
  | .expression expression => expression.columns.flatMap Column.leaves
  | .parameter parameter => [.parameter parameter]
  | .query select | .any select | .all select => select.leaves

/-- The leaves of a condition. -/
@[simp] def Clause.leaves : Clause → Layout
  | ⟨_, left?, right?⟩ => leavesOfOperand? left? ++ leavesOfOperand? right?

/-- The leaves of a query. -/
@[simp] def Select.leaves : Select → Layout
  | ⟨table, columns, _, groupBy, having?, slots⟩ =>
      .fixed table.name :: leavesOfOperands columns ++ groupBy.flatMap Column.leaves ++
        leavesOfClause? having? ++ slots.leaves

/-- The leaves of slots. -/
def Slots.leaves : Slots → Layout
  | ⟨filter?, suffix?, tables, _⟩ =>
      leavesOfClause? filter? ++ suffix?.toList.map .fixed ++ leavesOfTables tables

/-- The leaves of a named query. -/
@[simp] def WithTable.leaves : WithTable → Layout
  | ⟨name, select⟩ => .fixed name :: select.leaves

/-- The leaves of an operand that may be missing. -/
@[simp] def leavesOfOperand? : Option Operand → Layout
  | none => []
  | some operand => operand.leaves

/-- The leaves of a condition that may be missing. -/
@[simp] def leavesOfClause? : Option Clause → Layout
  | none => []
  | some clause => clause.leaves

/-- The leaves of operands. -/
def leavesOfOperands : List Operand → Layout
  | [] => []
  | operand :: rest => operand.leaves ++ leavesOfOperands rest

/-- The leaves of named queries. -/
def leavesOfTables : List WithTable → Layout
  | [] => []
  | table :: rest => table.leaves ++ leavesOfTables rest

end

/-- The leaves of an entry. -/
@[simp] def Entry.leaves : Entry → Layout
  | operand given => given.leaves
  | assignment column value => column.leaves ++ value.leaves
  | table given => given.leaves

namespace Statement

/-- The leaves of a statement. -/
@[simp] def leaves : Statement → Layout
  | select statement => statement.leaves
  | insert statement =>
      .fixed statement.table.name :: (statement.values.map Prod.fst).flatMap Column.leaves ++
        leavesOfOperands (statement.values.map Prod.snd) ++ statement.slots.leaves
  | update statement =>
      .fixed statement.table.name ::
        (statement.assignments.flatMap fun entry => entry.1.leaves ++ entry.2.leaves) ++
        statement.slots.leaves
  | delete statement => .fixed statement.table.name :: statement.slots.leaves
  | raw statement => .fixed statement.sql :: statement.slots.leaves
  | createIndex statement | dropIndex statement =>
      .fixed statement.index.name :: .fixed statement.index.table.name ::
        statement.index.columns.flatMap Column.leaves ++ statement.slots.leaves

/-- The names and given texts of a statement are plain. -/
def Plain (statement : Statement) : Prop :=
  ∀ text ∈ statement.leaves.texts, Text.Plain text

instance (statement : Statement) : Decidable statement.Plain :=
  inferInstanceAs (Decidable (∀ text ∈ statement.leaves.texts, Text.Plain text))

/-- All parameters in a statement. -/
def parameters (statement : Statement) : List Parameter :=
  statement.leaves.parameters

end Statement

/-- The leaves of a phrase, and its keyword. -/
@[simp] def Phrase.leaves : Phrase → Layout
  | entry given => given.leaves
  | entries given => given.flatMap Entry.leaves
  | clause given => given.leaves
  | condition keyword clause? => .fixed keyword :: leavesOfClause? clause?
  | withTables tables => leavesOfTables tables
  | select given => given.leaves
  | statement given => given.leaves

@[simp] theorem leavesOfOperands_eq (operands : List Operand) :
    leavesOfOperands operands = (entriesOf operands).flatMap Entry.leaves := by
  induction operands with
  | nil => rfl
  | cons operand rest ih => simp [leavesOfOperands, entriesOf, ih]

@[simp] theorem leavesOfTables_eq (tables : List WithTable) :
    leavesOfTables tables = (tables.map Entry.table).flatMap Entry.leaves := by
  induction tables with
  | nil => rfl
  | cons table rest ih => simp [leavesOfTables, ih]

/-- The elements of an array hold nothing else than parameters. -/
@[simp] theorem Elements.flatMap_leaves (elements : Elements) :
    (entriesOf elements.operands).flatMap Entry.leaves = elements.written.map .parameter := by
  cases elements <;>
    simp [Elements.operands, entriesOf, Elements.written, List.flatMap_map, Function.comp_def,
      ← List.map_eq_flatMap]

theorem Elements.leaves_pair {elements : Elements} {low high : Operand}
    (h : elements.operands = [low, high]) :
    low.leaves ++ high.leaves = elements.written.map .parameter := by
  rw [← elements.flatMap_leaves, h]
  simp [entriesOf]

@[simp] theorem Slots.leaves_eq (slots : Slots) :
    slots.leaves = leavesOfClause? slots.filter? ++ slots.suffix?.toList.map .fixed ++
      leavesOfTables slots.withTables := by
  cases slots
  rfl

/-! ## Parameters in the order of the text -/

mutual

/-- The parameters in the text of an operand. -/
@[simp] def Operand.written : Operand → List Parameter
  | .clause clause => clause.written
  | .parameter parameter => [parameter]
  | .query select | .any select | .all select => select.written
  | .value _ | .array _ | .column _ | .expression _ => []

/-- The parameters in the text of a condition. -/
def Clause.written : Clause → List Parameter
  | ⟨condition, left?, some (.array elements)⟩ =>
      match condition.form with
      | .range => writtenOfOperand? left? ++ elements.written
      | .membership _ =>
          if elements.operands.isEmpty then []
          else writtenOfOperand? left? ++ elements.written
      | _ => writtenOfOperand? left?
  | ⟨_, left?, right?⟩ => writtenOfOperand? left? ++ writtenOfOperand? right?

/-- The parameters in the text of a query. -/
def Select.written : Select → List Parameter
  | ⟨_, columns, _, _, having?, ⟨filter?, _, tables, _⟩⟩ =>
      writtenOfTables tables ++ writtenOfOperands columns ++ writtenOfClause? filter? ++
        writtenOfClause? having?

/-- The parameters in the text of a named query. -/
@[simp] def WithTable.written : WithTable → List Parameter
  | ⟨_, select⟩ => select.written

/-- The parameters in the text of an operand that may be missing. -/
@[simp] def writtenOfOperand? : Option Operand → List Parameter
  | none => []
  | some operand => operand.written

/-- The parameters in the text of a condition that may be missing. -/
@[simp] def writtenOfClause? : Option Clause → List Parameter
  | none => []
  | some clause => clause.written

/-- The parameters in the texts of operands. -/
def writtenOfOperands : List Operand → List Parameter
  | [] => []
  | operand :: rest => operand.written ++ writtenOfOperands rest

/-- The parameters in the texts of named queries. -/
def writtenOfTables : List WithTable → List Parameter
  | [] => []
  | table :: rest => table.written ++ writtenOfTables rest

end

/-- The parameters in the text of a statement, in the order of the text. -/
@[simp] def Statement.written : Statement → List Parameter
  | select statement => statement.written
  | insert statement =>
      writtenOfTables statement.slots.withTables ++
        writtenOfOperands (statement.values.map Prod.snd)
  | update statement =>
      writtenOfTables statement.slots.withTables ++
        writtenOfOperands (statement.assignments.map Prod.snd) ++
        writtenOfClause? statement.slots.filter?
  | delete statement =>
      writtenOfTables statement.slots.withTables ++ writtenOfClause? statement.slots.filter?
  | raw statement =>
      writtenOfTables statement.slots.withTables ++ writtenOfClause? statement.slots.filter?
  | createIndex _ | dropIndex _ => []

/-- The parameters in the text of an entry. -/
@[simp] def Entry.written : Entry → List Parameter
  | operand given => given.written
  | assignment _ value => value.written
  | table given => given.written

/-- The parameters in the text of a phrase. -/
@[simp] def Phrase.written : Phrase → List Parameter
  | entry given => given.written
  | entries given => given.flatMap Entry.written
  | clause given => given.written
  | condition _ clause? => writtenOfClause? clause?
  | withTables tables => writtenOfTables tables
  | select given => given.written
  | statement given => given.written

@[simp] theorem writtenOfOperands_eq (operands : List Operand) :
    writtenOfOperands operands = (entriesOf operands).flatMap Entry.written := by
  induction operands with
  | nil => rfl
  | cons operand rest ih => simp [writtenOfOperands, entriesOf, Entry.written, ih]

@[simp] theorem writtenOfTables_eq (tables : List WithTable) :
    writtenOfTables tables = (tables.map Entry.table).flatMap Entry.written := by
  induction tables with
  | nil => rfl
  | cons table rest ih => simp [writtenOfTables, Entry.written, ih]

@[simp] theorem Elements.flatMap_written (elements : Elements) :
    (entriesOf elements.operands).flatMap Entry.written = elements.written := by
  cases elements <;>
    simp [Elements.operands, entriesOf, Elements.written, Entry.written, Operand.written,
      List.flatMap_map, Function.comp_def]

variable {dialect : Dialect} {phrase : Phrase} {layout : Layout}

@[simp] theorem parameters_suffixLayout (slots : Slots) : slots.suffixLayout.parameters = [] := by
  unfold Slots.suffixLayout
  split <;> rfl

@[simp] theorem parameters_namesLayout (slots : Slots) (keyword : String) :
    (slots.namesLayout dialect keyword).parameters = [] := by
  unfold Slots.namesLayout
  split <;> rfl

@[simp] theorem parameters_groupingLayout (columns : List Column) :
    (groupingLayout dialect columns).parameters = [] := by
  cases columns <;> rfl

/-- Only ranges and membership tests give an array a text. -/
theorem Clause.written_of_form {condition : Condition} {left? : Option Operand} {right : Operand}
    (h : condition.form = .before ∨ condition.form = .binary) :
    Clause.written ⟨condition, left?, some right⟩ = writtenOfOperand? left? ++ right.written := by
  cases right with
  | array elements => rcases h with h | h <;> simp [Clause.written, Operand.written, h]
  | _ => rfl

theorem Select.written_eq (select : Select) :
    select.written = writtenOfTables select.slots.withTables ++ writtenOfOperands select.columns ++
      writtenOfClause? select.slots.filter? ++ writtenOfClause? select.having? := by
  obtain ⟨_, _, _, _, _, _, _, _, _⟩ := select
  rfl

/-- The parameters of a layout are those in the text of the phrase. -/
theorem Reads.parameters_eq (h : Reads dialect phrase layout) :
    layout.parameters = phrase.written := by
  induction h with
  | value | array | column | expression | parameter | none | absent | withoutTables => rfl
  | nested _ ih | query _ ih | any _ _ ih | all _ ih | table _ ih =>
      exact (Layout.parameters_between ..).trans ih
  | assignment _ ih | present _ ih => exact (Layout.parameters_behind ..).trans ih
  | one _ ih => exact ih.trans (List.append_nil _).symm
  | more _ _ ihfirst ihrest =>
      rw [Layout.parameters_append, Layout.parameters_followed, ihfirst, ihrest]
      rfl
  | before hform _ ih =>
      rw [Layout.parameters_behind, ih, Phrase.written, Phrase.written,
        Clause.written_of_form (Or.inl hform)]
      rfl
  | after _ _ ih =>
      rw [Layout.parameters_followed, ih]
      exact (List.append_nil _).symm
  | binary hform _ _ ihleft ihright =>
      rw [Layout.parameters_append, Layout.parameters_followed, ihleft, ihright,
        Phrase.written, Phrase.written, Phrase.written, Clause.written_of_form (Or.inr hform)]
      rfl
  | @range condition left elements low high _ _ _ hform hoperands _ _ _ ihleft ihlow ihhigh =>
      -- the operands of the array are two here, but its parameters are found from the whole
      have helements : elements.written = low.written ++ high.written := by
        rw [← elements.flatMap_written, hoperands]
        simp [entriesOf]
      have hclause : Clause.written ⟨condition, some left, some (.array elements)⟩ =
          left.written ++ elements.written := by
        rw [Clause.written, hform]
        rfl
      rw [Layout.parameters_append, Layout.parameters_followed, Layout.parameters_append,
        Layout.parameters_followed, ihleft, ihlow, ihhigh, List.append_assoc]
      exact (hclause.trans (congrArg _ helements)).symm
  | memberOfQuery _ _ _ ihleft ihquery =>
      rw [Layout.parameters_followed, Layout.parameters_append, Layout.parameters_followed,
        ihleft, ihquery]
      rfl
  | memberOfNothing hform hoperands =>
      rw [Phrase.written, Clause.written, hform, hoperands]
      rfl
  | memberOfList hform hoperands _ _ ihleft ihitems =>
      have hitems := ihitems.trans (Elements.flatMap_written _)
      rw [Layout.parameters_followed, Layout.parameters_append, Layout.parameters_followed,
        ihleft, hitems, Phrase.written, Phrase.written, Clause.written, hform]
      exact (if_neg (by simpa using hoperands)).symm
  | withTables _ _ ih =>
      exact (Layout.parameters_between ..).trans (ih.trans (writtenOfTables_eq _).symm)
  | @select _ columns _ _ _ _ _ items _ _ _ _ _ _ _ ihhead ihitems ihfilter ihhaving =>
      have hcolumns : Layout.parameters (if columns.isEmpty then fixed "*" else items) =
          writtenOfOperands columns := by
        cases columns with
        | nil => rfl
        | cons column rest => exact ihitems.trans (writtenOfOperands_eq _).symm
      simp only [Layout.parameters_append, Layout.parameters_fixed, parameters_groupingLayout,
        parameters_suffixLayout, List.append_nil, ihhead, hcolumns, ihfilter, ihhaving]
      exact (Select.written_eq ⟨_, columns, _, _, _, _⟩).symm
  | selectStatement _ ih => exact ih
  | insertStatement _ _ _ ihhead ihvalues =>
      simp only [Layout.parameters_append, Layout.parameters_fixed, parameters_suffixLayout,
        List.append_nil, ihhead, ihvalues]
      exact congrArg _ (writtenOfOperands_eq _).symm
  | @updateStatement update _ _ _ _ _ _ _ ihhead ihassignments ihfilter =>
      have hassignments : writtenOfOperands (update.assignments.map Prod.snd) =
          Phrase.written (.entries (update.assignments.map fun entry =>
            .assignment entry.1 entry.2)) := by
        rw [writtenOfOperands_eq, Phrase.written, entriesOf, List.map_map, List.flatMap_map,
          List.flatMap_map]
        rfl
      simp only [Layout.parameters_append, Layout.parameters_fixed, apply_ite Layout.parameters,
        parameters_namesLayout, parameters_suffixLayout, Layout.parameters, ite_self,
        List.append_nil, ihhead, ihassignments, ihfilter]
      rw [← hassignments]
      rfl
  | deleteStatement _ _ _ ihhead ihfilter =>
      simp only [Layout.parameters_append, Layout.parameters_fixed, apply_ite Layout.parameters,
        parameters_namesLayout, parameters_suffixLayout, Layout.parameters, ite_self,
        List.append_nil, ihhead, ihfilter]
      rfl
  | rawStatement _ _ _ ihhead ihfilter =>
      simp only [Layout.parameters_append, Layout.parameters_fixed, parameters_suffixLayout,
        List.append_nil, ihhead, ihfilter]
      rfl
  | createIndexStatement | dropIndexStatement =>
      exact (Layout.parameters_behind ..).trans (parameters_suffixLayout _)

/-! ## Parameters are leaves -/

/-- The parameters of a layout can be written, and are among some leaves. -/
def Layout.From (layout leaves : Layout) : Prop :=
  ∀ parameter ∈ layout.parameters, parameter.Usable ∧ parameter ∈ leaves.parameters

namespace Layout

variable {first second leaves others : Layout}

theorem from_of_parameters_eq_nil (h : layout.parameters = []) : layout.From leaves := by
  intro parameter hparameter
  rw [h] at hparameter
  cases hparameter

theorem from_fixed (text : String) : (fixed text).From leaves :=
  from_of_parameters_eq_nil rfl

namespace From

theorem append (hfirst : first.From leaves) (hsecond : second.From leaves) :
    (first ++ second : Layout).From leaves := by
  intro parameter hparameter
  rw [parameters_append] at hparameter
  rcases List.mem_append.mp hparameter with hparameter | hparameter
  · exact hfirst parameter hparameter
  · exact hsecond parameter hparameter

theorem behind (h : layout.From leaves) (front : String) :
    (fixed front ++ layout : Layout).From leaves :=
  (from_fixed front).append h

theorem followed (h : layout.From leaves) (back : String) :
    (layout ++ fixed back : Layout).From leaves :=
  h.append (from_fixed back)

theorem between (h : layout.From leaves) (front back : String) :
    (fixed front ++ layout ++ fixed back : Layout).From leaves :=
  (h.behind front).followed back

theorem inl (h : layout.From leaves) : layout.From (leaves ++ others) := by
  intro parameter hparameter
  rw [parameters_append]
  exact (h parameter hparameter).imp_right (List.mem_append_left _)

theorem inr (h : layout.From leaves) : layout.From (others ++ leaves) := by
  intro parameter hparameter
  rw [parameters_append]
  exact (h parameter hparameter).imp_right (List.mem_append_right _)

theorem cons (h : layout.From leaves) (text : String) : layout.From (.fixed text :: leaves) :=
  h

theorem withTables {slots : Slots}
    (h : layout.From (Phrase.leaves (.withTables slots.withTables))) :
    layout.From slots.leaves := by
  rw [Slots.leaves_eq]
  exact h.inr

theorem condition {keyword : String} {clause? : Option Clause}
    (h : layout.From (Phrase.leaves (.condition keyword clause?))) :
    layout.From (leavesOfClause? clause?) :=
  h

theorem filter {keyword : String} {slots : Slots}
    (h : layout.From (Phrase.leaves (.condition keyword slots.filter?))) :
    layout.From slots.leaves := by
  rw [Slots.leaves_eq]
  exact h.condition.inl.inl

theorem suffix (h : layout.From leaves) (slots : Slots) :
    (layout ++ slots.suffixLayout : Layout).From leaves :=
  h.append (from_of_parameters_eq_nil (parameters_suffixLayout slots))

theorem names (h : layout.From leaves) (slots : Slots) (dialect : Dialect) (lists : Bool)
    (keyword : String) :
    (layout ++ (if lists then slots.namesLayout dialect keyword else []) : Layout).From leaves := by
  refine h.append (from_of_parameters_eq_nil ?_)
  split
  · exact parameters_namesLayout slots keyword
  · rfl

end From

end Layout

/-- The parameters of a layout are leaves of the phrase that can be written. -/
theorem Reads.from_leaves (h : Reads dialect phrase layout) : layout.From phrase.leaves := by
  induction h with
  | array | none | absent | withoutTables => exact Layout.from_of_parameters_eq_nil rfl
  | value | column | expression | memberOfNothing => exact Layout.from_fixed _
  | parameter husable =>
      intro parameter hparameter
      obtain rfl := List.mem_singleton.mp hparameter
      exact ⟨husable, List.mem_singleton_self _⟩
  | nested _ ih | query _ ih | any _ _ ih | all _ ih => exact ih.between _ _
  | assignment _ ih => exact (ih.behind _).inr
  | table _ ih => exact (ih.between _ _).cons _
  | one _ ih => exact ih.inl
  | more _ _ ih ihrest => exact (ih.inl.followed _).append ihrest.inr
  | before _ _ ih => exact (ih.behind _).inr
  | after _ _ ih => exact (ih.followed _).inl
  | binary _ _ _ ihleft ihright => exact (ihleft.inl.followed _).append ihright.inr
  | @range _ _ _ low high _ start stop _ hoperands _ _ _ ihleft ihlow ihhigh =>
      have hlow : start.From (low.leaves ++ high.leaves) := ihlow.inl
      have hhigh : stop.From (low.leaves ++ high.leaves) := ihhigh.inr
      rw [Elements.leaves_pair hoperands] at hlow hhigh
      exact (((ihleft.inl.followed _).append hlow.inr).followed _).append hhigh.inr
  | memberOfQuery _ _ _ ihleft ihquery =>
      exact ((ihleft.inl.followed _).append ihquery.inr).followed _
  | memberOfList _ _ _ _ ihleft ihitems =>
      rw [Phrase.leaves, Elements.flatMap_leaves] at ihitems
      exact ((ihleft.inl.followed _).append ihitems.inr).followed _
  | present _ ih => exact (ih.behind _).cons _
  | withTables _ _ ih =>
      rw [Phrase.leaves, leavesOfTables_eq]
      exact ih.between _ _
  | @select table columns distinct groupBy having? slots head items filter having _ _ _ _ _
      ihhead ihitems ihfilter ihhaving =>
      let leaves := Select.leaves ⟨table, columns, distinct, groupBy, having?, slots⟩
      have hhead : head.From leaves := ihhead.withTables.inr
      have hcolumns : Layout.From (if columns.isEmpty then fixed "*" else items) leaves := by
        split
        · exact Layout.from_fixed _
        · rw [Phrase.leaves, ← leavesOfOperands_eq] at ihitems
          exact (ihitems.cons _).inl.inl.inl
      have hfilter : filter.From leaves := ihfilter.filter.inr
      have hgroups : (groupingLayout dialect groupBy).From leaves :=
        Layout.from_of_parameters_eq_nil (parameters_groupingLayout groupBy)
      have hhaving : having.From leaves := ihhaving.condition.inr.inl
      refine .suffix (.append (.append (.append ?_ hfilter) hgroups) hhaving) slots
      exact ((hhead.followed _).append hcolumns).followed _
  | selectStatement _ ih => exact ih
  | @insertStatement insert head values _ _ _ ihhead ihvalues =>
      have hhead : head.From (Statement.insert insert).leaves := ihhead.withTables.inr
      have hvalues : values.From (Statement.insert insert).leaves := by
        rw [Phrase.leaves, ← leavesOfOperands_eq] at ihvalues
        exact ihvalues.inr.inl
      exact (((hhead.followed _).append hvalues).followed _).suffix insert.slots
  | @updateStatement update head assignments filter _ _ _ _ ihhead ihassignments ihfilter =>
      have hhead : head.From (Statement.update update).leaves := ihhead.withTables.inr
      have hassignments : assignments.From (Statement.update update).leaves := by
        rw [Phrase.leaves, List.flatMap_map] at ihassignments
        exact (ihassignments.cons _).inl
      have hfilter : filter.From (Statement.update update).leaves := ihfilter.filter.inr
      refine .suffix (.append (.names ?_ _ _ _ _) hfilter) update.slots
      exact (hhead.followed _).append hassignments
  | @deleteStatement delete head filter _ _ _ ihhead ihfilter =>
      have hhead : head.From (Statement.delete delete).leaves := ihhead.withTables.cons _
      have hfilter : filter.From (Statement.delete delete).leaves := ihfilter.filter.cons _
      refine .suffix (.append (.names ?_ _ _ _ _) hfilter) delete.slots
      exact hhead.followed _
  | @rawStatement raw head filter _ _ _ ihhead ihfilter =>
      have hhead : head.From (Statement.raw raw).leaves := ihhead.withTables.cons _
      have hfilter : filter.From (Statement.raw raw).leaves := ihfilter.filter.cons _
      exact ((hhead.followed _).append hfilter).suffix raw.slots
  | @createIndexStatement creation => exact (Layout.from_fixed _).suffix creation.slots
  | @dropIndexStatement removal => exact (Layout.from_fixed _).suffix removal.slots

end SqlText
