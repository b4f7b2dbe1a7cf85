import SqlText.Proofs.Statement.Steps
import SqlText.Proofs.Statement.Tells

/-!
# The history of a statement

What a statement has become is determined by the steps that were taken, each looked at
on its own:

* the filter, the condition on groups, the suffix and the `WITH` clause are those of the
  first step that gives one, where a step without tables gives no `WITH` clause;
* the columns and the grouping of a query are those of the last step that gives them;
* assignments are added to those that are there;
* a step is refused if an earlier one has filled its place, and a step without tables is
  refused in any case (`Step.problem?`).

`Statement.withSteps` is a statement after steps, written down in one piece.  One more
step leads from there to the same with one more step (`Statement.after?_withSteps`), so a
run of steps ends where it should (`Statement.afterAll?_withSteps`).  A statement with a
refused step is never written.
-/

namespace SqlText

/-! ## What a step gives -/

namespace Step

/-- The filter that a step gives. -/
@[simp] def filter? : Step → Option Clause
  | .filter clause => some clause
  | _ => none

/-- The condition on groups that a step gives. -/
@[simp] def having? : Step → Option Clause
  | .having clause => some clause
  | _ => none

/-- The suffix that a step gives. -/
@[simp] def suffix? : Step → Option String
  | .suffix text => some text
  | _ => none

/-- The named queries that a step gives, if there is at least one. -/
@[simp] def tables? : Step → Option (List WithTable)
  | .withTables (table :: rest) => some (table :: rest)
  | _ => none

/-- The assignment that a step gives. -/
@[simp] def assignment? : Step → Option (Column × Operand)
  | .set column value => some (column, value)
  | _ => none

/-- The columns that a step gives. -/
@[simp] def columns? : Step → Option (List Operand)
  | .columns given => some given
  | _ => none

/-- The grouping that a step gives. -/
@[simp] def groupBy? : Step → Option (List Column)
  | .groupBy given => some given
  | _ => none

/-- Whether a step asks for distinct rows. -/
@[simp] def isDistinct : Step → Bool
  | .distinct => true
  | _ => false

end Step

/-- Why a step is refused after earlier steps, if it is. -/
@[simp] def Step.problem? (before : List Step) : Step → Option Problem
  | .filter _ => if (before.findSome? filter?).isSome then some .secondFilter else none
  | .having _ => if (before.findSome? having?).isSome then some .secondHaving else none
  | .suffix _ => if (before.findSome? suffix?).isSome then some .secondSuffix else none
  | .withTables tables =>
      if (before.findSome? tables?).isSome then some .secondWith
      else if tables.isEmpty then some .emptyWith
      else none
  | .set _ _ | .columns _ | .distinct | .groupBy _ => none

/-- The problems with steps that follow earlier ones, in order. -/
def problemsAfter (before : List Step) : List Step → List Problem
  | [] => []
  | step :: rest => (step.problem? before).toList ++ problemsAfter (before ++ [step]) rest

/-- Whether statements of a kind have a step. -/
def StatementKind.offers : StatementKind → Step → Bool
  | select, .set _ _ => false
  | select, _ => true
  | insert, .set _ _ => true
  | insert, .filter _ => false
  | update, .set _ _ => true
  | createIndex, .suffix _ | dropIndex, .suffix _ => true
  | createIndex, _ | dropIndex, _ => false
  | _, .filter _ | _, .suffix _ | _, .withTables _ => true
  | _, _ => false

/-- Slots that were empty before the given steps. -/
def Slots.ofSteps (steps : List Step) : Slots where
  filter? := steps.findSome? Step.filter?
  suffix? := steps.findSome? Step.suffix?
  withTables := (steps.findSome? Step.tables?).getD []
  problems := problemsAfter [] steps

/-- A query without parts after the given steps. -/
def Select.withSteps (steps : List Step) (start : Select) : Select where
  table := start.table
  columns := (steps.reverse.findSome? Step.columns?).getD []
  distinct := steps.any Step.isDistinct
  groupBy := (steps.reverse.findSome? Step.groupBy?).getD []
  having? := steps.findSome? Step.having?
  slots := .ofSteps steps

/-- An insertion without other parts than its values after the given steps. -/
def Insert.withSteps (steps : List Step) (start : Insert) : Insert where
  table := start.table
  values := start.values ++ steps.filterMap Step.assignment?
  slots := .ofSteps steps
  values_ne_nil := List.append_ne_nil_of_left_ne_nil start.values_ne_nil _

/-- An update without other parts than its assignments after the given steps. -/
def Update.withSteps (steps : List Step) (start : Update) : Update where
  table := start.table
  assignments := start.assignments ++ steps.filterMap Step.assignment?
  slots := .ofSteps steps
  assignments_ne_nil := List.append_ne_nil_of_left_ne_nil start.assignments_ne_nil _

/-- A statement without other parts than those it started with after the given steps. -/
def Statement.withSteps (steps : List Step) : Statement → Statement
  | select start => .select (start.withSteps steps)
  | insert start => .insert (start.withSteps steps)
  | update start => .update (start.withSteps steps)
  | delete start => .delete ⟨start.table, .ofSteps steps⟩
  | raw start => .raw ⟨start.sql, start.tables, .ofSteps steps⟩
  | createIndex start => .createIndex ⟨start.index, .ofSteps steps⟩
  | dropIndex start => .dropIndex ⟨start.index, .ofSteps steps⟩

/-! ## Problems in order -/

theorem problemsAfter_append (before first rest : List Step) :
    problemsAfter before (first ++ rest) =
      problemsAfter before first ++ problemsAfter (before ++ first) rest := by
  induction first generalizing before with
  | nil => simp [problemsAfter]
  | cons step more ih =>
      rw [List.cons_append, problemsAfter, problemsAfter, ih, List.append_assoc,
        List.append_assoc, List.singleton_append]

theorem problemsAfter_concat (before : List Step) (step : Step) :
    problemsAfter [] (before ++ [step]) =
      problemsAfter [] before ++ (step.problem? before).toList := by
  simp [problemsAfter_append, problemsAfter]

/-! ## One more step -/

namespace Slots

variable {before : List Step} {step : Step}

/-- Slots are looked at one by one. -/
theorem ofSteps_concat (before : List Step) (step : Step) :
    ofSteps (before ++ [step]) =
      ⟨(before.findSome? Step.filter?).or step.filter?,
        (before.findSome? Step.suffix?).or step.suffix?,
        ((before.findSome? Step.tables?).or step.tables?).getD [],
        problemsAfter [] before ++ (step.problem? before).toList⟩ := by
  simp only [ofSteps, problemsAfter_concat, List.findSome?_append, List.findSome?_singleton]

theorem setFilter_ofSteps (clause : Clause) :
    (ofSteps before).setFilter clause = ofSteps (before ++ [.filter clause]) := by
  rw [ofSteps_concat]
  cases hfilter : before.findSome? Step.filter? <;> simp [setFilter, ofSteps, refuse, hfilter]

theorem setSuffix_ofSteps (text : String) :
    (ofSteps before).setSuffix text = ofSteps (before ++ [.suffix text]) := by
  rw [ofSteps_concat]
  cases hsuffix : before.findSome? Step.suffix? <;> simp [setSuffix, ofSteps, refuse, hsuffix]

/-- Tables that steps give are not an empty list. -/
theorem exists_of_tables? {tables : List WithTable}
    (h : before.findSome? Step.tables? = some tables) :
    ∃ table rest, tables = table :: rest := by
  obtain ⟨step, -, hstep⟩ := List.exists_of_findSome?_eq_some h
  cases step with
  | withTables given =>
      cases given with
      | nil => cases hstep
      | cons table rest => exact ⟨table, rest, (Option.some.inj hstep).symm⟩
  | _ => cases hstep

theorem setWith_ofSteps (tables : List WithTable) :
    (ofSteps before).setWith tables = ofSteps (before ++ [.withTables tables]) := by
  rw [ofSteps_concat]
  cases htables : before.findSome? Step.tables? with
  | none => cases tables <;> simp [setWith, ofSteps, refuse, htables]
  | some first =>
      obtain ⟨table, rest, rfl⟩ := exists_of_tables? htables
      simp [setWith, ofSteps, refuse, htables]

theorem after?_ofSteps (h : StatementKind.offers .delete step = true) :
    (ofSteps before).after? step = some (ofSteps (before ++ [step])) := by
  cases step with
  | filter clause => exact congrArg some (setFilter_ofSteps clause)
  | suffix text => exact congrArg some (setSuffix_ofSteps text)
  | withTables tables => exact congrArg some (setWith_ofSteps tables)
  | having | set | columns | distinct | groupBy => cases h

/-- Slots do not depend on what a step says about other parts. -/
theorem ofSteps_concat_of_none (hfilter : step.filter? = none) (hsuffix : step.suffix? = none)
    (htables : step.tables? = none) (hproblem : step.problem? before = none) :
    ofSteps (before ++ [step]) = ofSteps before := by
  rw [ofSteps_concat, hfilter, hsuffix, htables, hproblem]
  simp [ofSteps]

theorem check_of_problems {slots : Slots} (h : slots.problems ≠ []) (kind : StatementKind) :
    slots.check kind = .error (.rejected kind slots.problems) :=
  if_neg (by simpa using h)

end Slots

/-- A query after one more step. -/
theorem Select.after?_withSteps (start : Select) {before : List Step} {step : Step}
    (h : StatementKind.offers .select step = true) :
    (start.withSteps before).after? step = some (start.withSteps (before ++ [step])) := by
  cases step with
  | filter clause =>
      simp [after?, Slots.after?, withSteps, Slots.setFilter_ofSteps, List.findSome?_cons]
  | suffix text =>
      simp [after?, Slots.after?, withSteps, Slots.setSuffix_ofSteps, List.findSome?_cons]
  | withTables tables =>
      simp [after?, Slots.after?, withSteps, Slots.setWith_ofSteps, List.findSome?_cons]
  | columns given | distinct | groupBy given =>
      simp only [after?, withSteps, List.reverse_append, List.reverse_singleton,
        List.singleton_append, List.findSome?_cons, List.findSome?_append, List.any_append]
      rw [Slots.ofSteps_concat_of_none rfl rfl rfl rfl]
      simp
  | having clause =>
      have hslots : Slots.ofSteps (before ++ [.having clause]) =
          ⟨before.findSome? Step.filter?, before.findSome? Step.suffix?,
            (before.findSome? Step.tables?).getD [],
            problemsAfter [] before ++ (Step.problem? before (.having clause)).toList⟩ := by
        rw [Slots.ofSteps_concat]
        simp
      unfold withSteps
      rw [hslots]
      cases hhaving : before.findSome? Step.having? <;>
        simp [after?, List.findSome?_cons, hhaving, Slots.refuse, Slots.ofSteps]
  | set column value => cases h

theorem Insert.after?_withSteps (start : Insert) {before : List Step} {step : Step}
    (h : StatementKind.offers .insert step = true) :
    (start.withSteps before).after? step = some (start.withSteps (before ++ [step])) := by
  cases step with
  | suffix text => simp [after?, Slots.after?, withSteps, Slots.setSuffix_ofSteps]
  | withTables tables => simp [after?, Slots.after?, withSteps, Slots.setWith_ofSteps]
  | set column value =>
      simp only [after?, withSteps, List.filterMap_append]
      rw [Slots.ofSteps_concat_of_none rfl rfl rfl rfl]
      simp
  | filter | having | columns | distinct | groupBy => cases h

theorem Update.after?_withSteps (start : Update) {before : List Step} {step : Step}
    (h : StatementKind.offers .update step = true) :
    (start.withSteps before).after? step = some (start.withSteps (before ++ [step])) := by
  cases step with
  | filter clause => simp [after?, Slots.after?, withSteps, Slots.setFilter_ofSteps]
  | suffix text => simp [after?, Slots.after?, withSteps, Slots.setSuffix_ofSteps]
  | withTables tables => simp [after?, Slots.after?, withSteps, Slots.setWith_ofSteps]
  | set column value =>
      simp only [after?, withSteps, List.filterMap_append]
      rw [Slots.ofSteps_concat_of_none rfl rfl rfl rfl]
      simp
  | having | columns | distinct | groupBy => cases h

theorem IndexStatement.after?_ofSteps (index : Index) {before : List Step} {step : Step}
    (h : StatementKind.offers .createIndex step = true) :
    IndexStatement.after? ⟨index, .ofSteps before⟩ step =
      some ⟨index, .ofSteps (before ++ [step])⟩ := by
  cases step with
  | suffix text => simp [after?, Slots.setSuffix_ofSteps]
  | filter | having | withTables | set | columns | distinct | groupBy => cases h

namespace Statement

variable {start statement : Statement} {before steps : List Step} {step : Step}

@[simp] theorem problems_withSteps (start : Statement) (steps : List Step) :
    (start.withSteps steps).problems = problemsAfter [] steps := by
  cases start <;> rfl

/-- A statement after one more step. -/
theorem after?_withSteps (h : start.kind.offers step = true) :
    (start.withSteps before).after? step = some (start.withSteps (before ++ [step])) := by
  cases start with
  | select start => simp [withSteps, after?, start.after?_withSteps h]
  | insert start => simp [withSteps, after?, start.after?_withSteps h]
  | update start => simp [withSteps, after?, start.after?_withSteps h]
  | delete start => simp [withSteps, after?, Delete.after?, Slots.after?_ofSteps h]
  | raw start =>
      have h : StatementKind.offers .delete step = true := by cases step <;> exact h
      simp [withSteps, after?, Raw.after?, Slots.after?_ofSteps h]
  | createIndex start | dropIndex start =>
      have h : StatementKind.offers .createIndex step = true := by cases step <;> exact h
      simp [withSteps, after?, IndexStatement.after?_ofSteps start.index h]

/-- There are no other steps than those that the kind of a statement offers. -/
theorem offers_of_after? (h : start.after? step = some statement) :
    start.kind.offers step = true := by
  cases start <;> cases step <;> first | rfl | cases h

/-! ## All steps -/

/-- A statement that no step was taken from is one after no steps. -/
theorem Fresh.withSteps_nil (h : start.Fresh) : start.withSteps [] = start := by
  have hslots := h.slots_eq
  cases h with
  | select | delete | raw | createIndex | dropIndex => rfl
  | @insert table values given hvalues =>
      change given.slots = .empty at hslots
      obtain ⟨_, _, _, _⟩ := given
      subst hslots
      simp [withSteps, Insert.withSteps, Slots.ofSteps, Slots.empty, problemsAfter]
  | @update table assignments given hassignments =>
      change given.slots = .empty at hslots
      obtain ⟨_, _, _, _⟩ := given
      subst hslots
      simp [withSteps, Update.withSteps, Slots.ofSteps, Slots.empty, problemsAfter]

/-- More steps lead to the statement after all of them. -/
theorem afterAll?_withSteps (start : Statement) (steps before : List Step)
    (h : ∀ step ∈ steps, start.kind.offers step = true) :
    (start.withSteps before).afterAll? steps = some (start.withSteps (before ++ steps)) := by
  unfold afterAll?
  induction steps generalizing before with
  | nil => simp
  | cons step rest ih =>
      have hstep := h step (List.mem_cons_self ..)
      have hoffers : ∀ other ∈ rest, start.kind.offers other = true :=
        fun other hother => h other (List.mem_cons_of_mem _ hother)
      rw [List.foldlM_cons, after?_withSteps hstep, Option.bind_eq_bind, Option.bind_some,
        ih (before ++ [step]) hoffers, List.append_assoc, List.singleton_append]

/-- Steps keep the kind of a statement. -/
theorem kind_of_after? (h : start.after? step = some statement) : statement.kind = start.kind := by
  cases start <;> obtain ⟨_, -, rfl⟩ := Option.map_eq_some_iff.mp h <;> rfl

/-- A run consists of steps that the kind of its statement offers. -/
theorem offers_of_afterAll? (h : start.afterAll? steps = some statement) :
    ∀ step ∈ steps, start.kind.offers step = true := by
  unfold afterAll? at h
  induction steps generalizing start with
  | nil => exact fun _ hmem => nomatch hmem
  | cons first rest ih =>
      rw [List.foldlM_cons] at h
      obtain ⟨next, hnext, hrest⟩ := Option.bind_eq_some_iff.mp h
      intro step hmem
      rcases List.mem_cons.mp hmem with rfl | hmem
      · exact offers_of_after? hnext
      · rw [← kind_of_after? hnext]
        exact ih hrest step hmem

/-! ## Refused steps -/

variable {dialect : Dialect}

/-- A statement with refused steps is not written, whatever its parts. -/
theorem render_of_problems (h : statement.problems ≠ []) :
    statement.render dialect = .error (.rejected statement.kind statement.problems) := by
  have hcheck := fun kind => Slots.check_of_problems h kind
  cases statement with
  | select given =>
      obtain ⟨_, _, _, _, _, slots⟩ := given
      rw [render, Select.render]
      exact congrArg (· >>= _) (hcheck .select)
  | insert given => exact congrArg (· >>= _) (hcheck .insert)
  | update given => exact congrArg (· >>= _) (hcheck .update)
  | delete given => exact congrArg (· >>= _) (hcheck .delete)
  | raw given => exact congrArg (· >>= _) (hcheck .raw)
  | createIndex given => exact congrArg (· >>= _) (hcheck .createIndex)
  | dropIndex given => exact congrArg (· >>= _) (hcheck .dropIndex)

/-- Nor is it built. -/
theorem build_of_problems (h : statement.problems ≠ []) :
    statement.build dialect = .error (.rejected statement.kind statement.problems) := by
  rw [build_eq, render_of_problems h]
  rfl

theorem buildNamed_of_problems (h : statement.problems ≠ []) :
    statement.buildNamed dialect = .error (.rejected statement.kind statement.problems) := by
  rw [buildNamed_eq, build_of_problems h]
  rfl

/-- A run of steps ends exactly if the kind of the statement offers all of them, and then
with what they say one by one.  If one of them was refused, then the statement fails in
whatever way its text is asked for, with the messages of all the refused steps. -/
theorem afterAll?_fresh (hstart : start.Fresh) (steps : List Step) :
    (∀ statement, start.afterAll? steps = some statement ↔
        (∀ step ∈ steps, start.kind.offers step = true) ∧ statement = start.withSteps steps) ∧
      (start.withSteps steps).problems = problemsAfter [] steps ∧
      (problemsAfter [] steps ≠ [] → ∃ fault : Fault,
        fault.kind = .malformed ∧
          fault.message = "; ".intercalate ((problemsAfter [] steps).map Problem.message) ∧
          ∀ dialect,
            (start.withSteps steps).render dialect = .error fault ∧
            (start.withSteps steps).build dialect = .error fault ∧
            (start.withSteps steps).buildNamed dialect = .error fault ∧
            (start.withSteps steps).toSql = .error fault) := by
  refine ⟨fun statement => ⟨fun h => ?_, ?_⟩, start.problems_withSteps steps, fun hproblems => ?_⟩
  · have hoffers := offers_of_afterAll? h
    have hrun := afterAll?_withSteps start steps [] hoffers
    rw [hstart.withSteps_nil, List.nil_append, h] at hrun
    exact ⟨hoffers, Option.some.inj hrun⟩
  · rintro ⟨hoffers, rfl⟩
    have hrun := afterAll?_withSteps start steps [] hoffers
    rwa [hstart.withSteps_nil, List.nil_append] at hrun
  · rw [← start.problems_withSteps steps] at hproblems ⊢
    exact ⟨.rejected (start.withSteps steps).kind (start.withSteps steps).problems, rfl, rfl,
      fun dialect => ⟨render_of_problems hproblems, build_of_problems hproblems,
        buildNamed_of_problems hproblems, build_of_problems hproblems⟩⟩

/-- Steps of which three are refused: a `WITH` clause without tables, which leaves its
place free for the next one, a second filter, and a third `WITH` clause. -/
def refusedSteps : List Step :=
  [.withTables [], .filter (.isNull (.column ⟨"users", "email"⟩)),
    .withTables [⟨"recent", .of ⟨"orders"⟩⟩], .columns [.column ⟨"users", "id"⟩],
    .filter (.isNotNull (.column ⟨"users", "email"⟩)), .columns [.column ⟨"users", "name"⟩],
    .withTables []]

/-- A query after these steps. -/
theorem afterAll?_fresh_refusedSteps :
    ∃ query : Select,
      (Statement.select (.of ⟨"users"⟩)).afterAll? refusedSteps = some (.select query) ∧
      query.columns = [.column ⟨"users", "name"⟩] ∧
      query.slots.filter? = some (.isNull (.column ⟨"users", "email"⟩)) ∧
      query.slots.withTables = [⟨"recent", .of ⟨"orders"⟩⟩] ∧
      query.slots.problems = [.emptyWith, .secondFilter, .secondWith] ∧
      ∃ fault, (Statement.select query).build .postgres = .error fault ∧
        fault.message = "; ".intercalate ["with clause requires at least one table",
          "multiple where clauses", "multiple with clauses"] := by
  obtain ⟨hruns, hproblems, hrefused⟩ := afterAll?_fresh (.select ⟨"users"⟩) refusedSteps
  have hrun := (hruns _).mpr ⟨by simp [refusedSteps, kind, StatementKind.offers], rfl⟩
  obtain ⟨fault, -, hmessage, hfails⟩ :=
    hrefused (by simp [refusedSteps, problemsAfter, Clause.isNull, Clause.isNotNull])
  refine ⟨_, hrun, rfl, rfl, rfl, hproblems.trans rfl, fault, (hfails .postgres).2.1, ?_⟩
  rw [hmessage]
  decide

end Statement

end SqlText
