import SqlText.Proofs.Statement.Faults
import SqlText.Statement.Build

/-!
# What is recorded during writing

Refused steps are looked for in the midst of writing: first in the statement itself, and
then in each query in it when its turn comes.  Such a find is recorded where it is made.
What is recorded in this way is what the outcome tells (`Statement.tells`): if the outcome
is that steps were refused, one event about these steps, and nothing otherwise.  For as
soon as one event is recorded, writing stops.

`Tells` relates what a writer does with a log to what it does without one.  It holds of the
steps that writers are made of, and is kept when one computation follows another
(`Tells.bind`), so that it holds of each writer step by step.
-/

namespace SqlText

/-! ## Queries within a statement -/

mutual

/-- The queries in an operand. -/
def Operand.queries : Operand → List Select
  | .clause clause => clause.queries
  | .query select | .any select | .all select => select.queries
  | .value _ | .array _ | .column _ | .expression _ | .parameter _ => []

/-- The queries in a clause. -/
def Clause.queries : Clause → List Select
  | ⟨_, left?, right?⟩ => queriesOfOperand? left? ++ queriesOfOperand? right?

/-- A query and the queries in it. -/
def Select.queries : Select → List Select
  | ⟨table, columns, distinct, groupBy, having?, slots⟩ =>
      ⟨table, columns, distinct, groupBy, having?, slots⟩ ::
        (slots.queries ++ queriesOfOperands columns ++ queriesOfClause? having?)

/-- The queries in slots. -/
def Slots.queries : Slots → List Select
  | ⟨filter?, _, tables, _⟩ => queriesOfTables tables ++ queriesOfClause? filter?

/-- The query of a named query and the queries in it. -/
def WithTable.queries : WithTable → List Select
  | ⟨_, select⟩ => select.queries

/-- The queries in an operand that may be missing. -/
def queriesOfOperand? : Option Operand → List Select
  | none => []
  | some operand => operand.queries

/-- The queries in a clause that may be missing. -/
def queriesOfClause? : Option Clause → List Select
  | none => []
  | some clause => clause.queries

/-- The queries in operands. -/
def queriesOfOperands : List Operand → List Select
  | [] => []
  | operand :: rest => operand.queries ++ queriesOfOperands rest

/-- The queries in named queries. -/
def queriesOfTables : List WithTable → List Select
  | [] => []
  | table :: rest => table.queries ++ queriesOfTables rest

end

/-- The queries in a statement, with the statement itself if it is one. -/
def Statement.queries : Statement → List Select
  | select given => given.queries
  | insert given => queriesOfOperands (given.values.map Prod.snd) ++ given.slots.queries
  | update given => queriesOfOperands (given.assignments.map Prod.snd) ++ given.slots.queries
  | delete given => given.slots.queries
  | raw given => given.slots.queries
  | createIndex _ | dropIndex _ => []

/-! ## What an outcome tells -/

/-- Whether a fault of writing leaves no event behind. -/
def Fault.isSilent : Fault → Bool
  | rejected _ _ => false
  | _ => true

theorem Fault.isSilent_of_isOfText {fault : Fault} (h : fault.isOfText = true) :
    fault.isSilent = true := by
  cases fault <;> first | rfl | cases h

/-- The steps of one of the given queries were refused. -/
def RefusedIn (queries : List Select) (kind : StatementKind) (problems : List Problem) : Prop :=
  kind = .select ∧ ∃ query ∈ queries, query.slots.problems = problems

/-- A computation records what its outcome tells.  If steps were refused, then they are
steps that may be refused. -/
structure Tells {α : Type} (mayRefuse : StatementKind → List Problem → Prop) (logged : Logged α)
    (result : Except Fault α) : Prop where
  eq_ofWriting : logged = .ofWriting result
  refused : ∀ kind problems, result = .error (.rejected kind problems) →
    problems ≠ [] ∧ mayRefuse kind problems

namespace Logged

variable {α β : Type}

theorem ofWriting_of_isSilent {fault : Fault} (h : fault.isSilent = true) :
    ofWriting (.error fault : Except Fault α) = .of [] (.error fault) := by
  cases fault <;> first | rfl | cases h

/-- One computation after the other records the one event that there is, for the second
one only runs if there was none. -/
theorem ofWriting_bind (first : Except Fault α) (next : α → Except Fault β) :
    (ofWriting first >>= fun value => ofWriting (next value)) = ofWriting (first >>= next) := by
  cases first with
  | ok value => rfl
  | error fault => cases fault <;> rfl

end Logged

namespace Tells

variable {α β : Type} {mayRefuse : StatementKind → List Problem → Prop}

theorem pure {value : α} : Tells mayRefuse (Pure.pure value) (.ok value) where
  eq_ofWriting := rfl
  refused := fun _ _ h => nomatch h

theorem ofResult {result : Except Fault α} (h : FailsWith Fault.isSilent result) :
    Tells mayRefuse (Recording.ofResult result) result := by
  cases result with
  | ok value => exact pure
  | error fault =>
      have hsilent := h fault rfl
      refine ⟨(Logged.ofWriting_of_isSilent hsilent).symm, fun kind problems heq => ?_⟩
      rw [Except.error.inj heq] at hsilent
      cases hsilent

theorem fail {fault : Fault} (h : fault.isSilent = true) :
    Tells mayRefuse (Recording.fail fault : Logged α) (.error fault) :=
  ofResult (.error h)

theorem bind {first : Logged α} {result : Except Fault α} {next : α → Logged β}
    {after : α → Except Fault β} (hfirst : Tells mayRefuse first result)
    (hnext : ∀ value, Tells mayRefuse (next value) (after value)) :
    Tells mayRefuse (first >>= next) (result >>= after) where
  eq_ofWriting := by
    have hevents : next = fun value => .ofWriting (after value) :=
      funext fun value => (hnext value).eq_ofWriting
    rw [hfirst.eq_ofWriting, hevents, Logged.ofWriting_bind]
  refused := by
    intro kind problems h
    cases result with
    | error fault =>
        obtain rfl := Except.error.inj h
        exact hfirst.refused kind problems rfl
    | ok value => exact (hnext value).refused kind problems h

theorem imp {logged : Logged α} {result : Except Fault α}
    {mayAlso : StatementKind → List Problem → Prop} (h : Tells mayRefuse logged result)
    (himp : ∀ {kind problems}, mayRefuse kind problems → mayAlso kind problems) :
    Tells mayAlso logged result :=
  ⟨h.eq_ofWriting, fun kind problems hresult => (h.refused kind problems hresult).imp_right himp⟩

/-- What is told about some queries is told about more of them. -/
theorem mono {queries others : List Select} {logged : Logged α} {result : Except Fault α}
    (h : Tells (RefusedIn queries) logged result) (hsub : queries ⊆ others) :
    Tells (RefusedIn others) logged result :=
  h.imp fun hrefused => hrefused.imp_right fun ⟨query, hmem, hquery⟩ => ⟨query, hsub hmem, hquery⟩

/-- What two computations give may be put together. -/
theorem both {γ : Type} {queries others : List Select} {first : Logged α} {second : Logged β}
    {result : Except Fault α} {other : Except Fault β}
    (hfirst : Tells (RefusedIn queries) first result) (hsecond : Tells (RefusedIn others) second other) {join : α → β → γ} :
    Tells (RefusedIn (queries ++ others))
      (first >>= fun value => second >>= fun more => Pure.pure (join value more))
      (result >>= fun value => other >>= fun more => Pure.pure (join value more)) := by
  refine (hfirst.mono (List.subset_append_left _ _)).bind fun value => ?_
  exact (hsecond.mono (List.subset_append_right _ _)).bind fun more => pure

theorem check {slots : Slots} {kind : StatementKind} (h : mayRefuse kind slots.problems) :
    Tells mayRefuse (slots.check kind) (slots.check kind) := by
  unfold Slots.check
  split
  case isTrue => exact pure
  case isFalse hproblems =>
    refine ⟨rfl, fun other problems heq => ?_⟩
    obtain ⟨rfl, rfl⟩ := Fault.rejected.inj (Except.error.inj heq)
    exact ⟨by simpa using hproblems, h⟩

end Tells

/-! ## Writing tells what it records -/

section Clauses

variable {dialect : Dialect} {mayRefuse : StatementKind → List Problem → Prop}
  {condition : Condition} {left right : Operand} {whenEmpty : String}

theorem Operand.tells_elements (operand : Operand) :
    Tells mayRefuse (Recording.ofResult (operand.renderElements dialect))
      (operand.renderElements dialect) :=
  .ofResult (operand.failsWith_text_elements.imp Fault.isSilent_of_isOfText)

theorem tells_range (hform : condition.form = .range)
    (hleft : Tells mayRefuse (left.render dialect) (left.render dialect)) :
    Tells mayRefuse (Clause.render dialect ⟨condition, some left, some right⟩)
      (Clause.render dialect ⟨condition, some left, some right⟩) := by
  rw [Clause.render_range hform, Clause.render, hform]
  refine hleft.bind fun subject => right.tells_elements.bind fun markups? => ?_
  rcases markups? with _ | _ | ⟨low, _ | ⟨high, _ | ⟨next, rest⟩⟩⟩
  · exact .fail (by rfl)
  · exact .fail (by rfl)
  · exact .fail (by rfl)
  · exact .pure
  · exact .fail (by rfl)

theorem tells_member (hform : condition.form = .membership whenEmpty)
    (hquery : ∀ select, right ≠ .query select)
    (hleft : Tells mayRefuse (left.render dialect) (left.render dialect)) :
    Tells mayRefuse (Clause.render dialect ⟨condition, some left, some right⟩)
      (Clause.render dialect ⟨condition, some left, some right⟩) := by
  rw [Clause.render_member hform hquery, Clause.render, hform]
  refine hleft.bind fun subject => ?_
  cases right with
  | query select => exact absurd rfl (hquery select)
  | _ =>
      refine (Operand.tells_elements _).bind fun markups? => ?_
      rcases markups? with _ | _ | ⟨first, rest⟩
      · exact .fail (by rfl)
      · exact .pure
      · exact .pure

end Clauses

section Trees

variable (dialect : Dialect)

mutual

theorem Operand.tells : ∀ operand : Operand,
    Tells (RefusedIn operand.queries) (operand.render dialect) (operand.render dialect)
  | .clause clause => by
      rw [Operand.render, Operand.render, Operand.queries]
      exact clause.tells.bind fun _ => .pure
  | .value value => by
      rw [Operand.render, Operand.render]
      exact .ofResult (value.failsWith_text.imp Fault.isSilent_of_isOfText)
  | .array _ | .column _ | .expression _ => by
      rw [Operand.render, Operand.render]
      exact .pure
  | .parameter parameter => by
      rw [Operand.render, Operand.render]
      exact .ofResult (parameter.failsWith_text.imp Fault.isSilent_of_isOfText)
  | .query select | .all select => by
      rw [Operand.render, Operand.render, Operand.queries]
      exact select.tells.bind fun _ => .pure
  | .any select => by
      rw [Operand.render, Operand.render, Operand.queries]
      split
      · exact select.tells.bind fun _ => .pure
      · exact .fail rfl

theorem Clause.tells : ∀ clause : Clause,
    Tells (RefusedIn clause.queries) (clause.render dialect) (clause.render dialect)
  | ⟨condition, none, none⟩ => by
      rw [Clause.render, Clause.render]
      split <;> exact .fail rfl
  | ⟨condition, none, some right⟩ => by
      rw [Clause.render, Clause.render, Clause.queries]
      split
      · exact right.tells.bind fun _ => .pure
      · exact .fail rfl
  | ⟨condition, some left, none⟩ => by
      rw [Clause.render, Clause.render, Clause.queries, queriesOfOperand?,
        queriesOfOperand?, List.append_nil]
      split
      · exact left.tells.bind fun _ => .pure
      · exact .fail rfl
  | ⟨condition, some left, some right⟩ => by
      have hleft := left.tells.mono (List.subset_append_left left.queries right.queries)
      rw [Clause.queries, queriesOfOperand?, queriesOfOperand?]
      cases hform : condition.form with
      | before | after =>
          rw [Clause.render, Clause.render, hform]
          exact .fail rfl
      | binary =>
          rw [Clause.render_binary hform, Clause.render, hform]
          exact left.tells.both right.tells
      | range => exact tells_range hform hleft
      | membership whenEmpty =>
          cases right with
          | query select =>
              rw [Clause.render_memberOfQuery hform, Clause.render, hform]
              exact left.tells.both select.tells
          | _ => exact tells_member hform (fun _ hquery => nomatch hquery) hleft

theorem Select.tells : ∀ select : Select,
    Tells (RefusedIn select.queries) (select.render dialect) (select.render dialect)
  | ⟨table, columns, distinct, groupBy, having?, slots⟩ => by
      have hslots : slots.queries ⊆ slots.queries ++ queriesOfOperands columns ++
          queriesOfClause? having? := by simp
      have hcolumns : queriesOfOperands columns ⊆ slots.queries ++ queriesOfOperands columns ++
          queriesOfClause? having? := by simp
      have hhaving : queriesOfClause? having? ⊆ slots.queries ++ queriesOfOperands columns ++
          queriesOfClause? having? := by simp
      rw [Select.render, Select.render, Select.queries]
      refine (Tells.check ⟨rfl, _, List.mem_cons_self .., rfl⟩).bind fun _ => ?_
      refine (slots.tells_with.mono (List.subset_cons_of_subset _ hslots)).bind fun _ => ?_
      refine ((tells_operands columns).mono (List.subset_cons_of_subset _ hcolumns)).bind
        fun _ => ?_
      refine (slots.tells_filter.mono (List.subset_cons_of_subset _ hslots)).bind fun _ => ?_
      cases having? with
      | none => exact .pure
      | some clause =>
          exact (clause.tells.mono (List.subset_cons_of_subset _ hhaving)).bind fun _ => .pure

theorem Slots.tells_with : ∀ slots : Slots,
    Tells (RefusedIn slots.queries) (slots.renderWith dialect) (slots.renderWith dialect)
  | ⟨_, _, [], _⟩ => .pure
  | ⟨filter?, _, table :: rest, _⟩ =>
      ((tells_tables (table :: rest)).mono
        (List.subset_append_left _ (queriesOfClause? filter?))).bind fun _ => .pure

theorem Slots.tells_filter : ∀ slots : Slots,
    Tells (RefusedIn slots.queries) (slots.renderFilter dialect)
      (slots.renderFilter dialect)
  | ⟨none, _, _, _⟩ => .pure
  | ⟨some clause, _, tables, _⟩ => by
      have hclause := clause.tells.mono
        (List.subset_append_right (queriesOfTables tables) clause.queries)
      exact hclause.bind fun _ => .pure

theorem WithTable.tells : ∀ table : WithTable,
    Tells (RefusedIn table.queries) (table.render dialect) (table.render dialect)
  | ⟨_, select⟩ => select.tells.bind fun _ => .pure

theorem tells_operands : ∀ operands : List Operand,
    Tells (RefusedIn (queriesOfOperands operands)) (renderOperands dialect operands)
      (renderOperands dialect operands)
  | [] => .pure
  | operand :: rest => operand.tells.both (tells_operands rest)

theorem tells_tables : ∀ tables : List WithTable,
    Tells (RefusedIn (queriesOfTables tables)) (renderTables dialect tables)
      (renderTables dialect tables)
  | [] => .pure
  | table :: rest => table.tells.both (tells_tables rest)

end

theorem tells_assignments (assignments : List (Column × Operand)) :
    Tells (RefusedIn (queriesOfOperands (assignments.map Prod.snd)))
      (renderAssignments dialect assignments) (renderAssignments dialect assignments) := by
  induction assignments with
  | nil => exact .pure
  | cons first rest ih => exact (first.2.tells dialect).both ih

namespace Statement

/-- The steps of the statement itself were refused, or those of a query in it. -/
def MayRefuse (statement : Statement) (kind : StatementKind) (problems : List Problem) : Prop :=
  (kind = statement.kind ∧ problems = statement.problems) ∨
    RefusedIn statement.queries kind problems

/-- What is recorded while a statement is written is what the outcome tells. -/
theorem tells (statement : Statement) :
    Tells statement.MayRefuse (statement.render dialect) (statement.render dialect) := by
  have hparts : ∀ {α : Type} {part : List Select} {logged : Logged α} {result : Except Fault α},
      Tells (RefusedIn part) logged result → part ⊆ statement.queries →
      Tells statement.MayRefuse logged result :=
    fun htells hsub => (htells.mono hsub).imp .inr
  cases statement with
  | select given => exact (given.tells dialect).imp .inr
  | insert given =>
      have hvalues := hparts (tells_operands dialect (given.values.map Prod.snd))
        (List.subset_append_left _ _)
      have hwith := hparts (given.slots.tells_with dialect) (List.subset_append_right _ _)
      refine (Tells.check (.inl ⟨rfl, rfl⟩)).bind fun _ => ?_
      exact hvalues.bind fun _ => hwith.bind fun _ => .pure
  | update given =>
      have hwith := hparts (given.slots.tells_with dialect) (List.subset_append_right _ _)
      have hassignments := hparts (tells_assignments dialect given.assignments)
        (List.subset_append_left _ _)
      have hfilter := hparts (given.slots.tells_filter dialect) (List.subset_append_right _ _)
      refine (Tells.check (.inl ⟨rfl, rfl⟩)).bind fun _ => ?_
      exact hwith.bind fun _ => hassignments.bind fun _ => hfilter.bind fun _ => .pure
  | delete given | raw given =>
      have hwith := hparts (given.slots.tells_with dialect) (List.Subset.refl _)
      have hfilter := hparts (given.slots.tells_filter dialect) (List.Subset.refl _)
      refine (Tells.check (.inl ⟨rfl, rfl⟩)).bind fun _ => ?_
      exact hwith.bind fun _ => hfilter.bind fun _ => .pure
  | createIndex given | dropIndex given =>
      exact (Tells.check (.inl ⟨rfl, rfl⟩)).bind fun _ => .pure

/-! ## Building without the log -/

/-- Writing with a log comes to the same as writing without one. -/
theorem renderLogged_eq (statement : Statement) :
    statement.renderLogged dialect = .ofWriting (statement.render dialect) :=
  (statement.tells dialect).eq_ofWriting

/-- A text with both kinds of parameters is refused, any other gets its placeholders. -/
theorem build_eq (statement : Statement) :
    statement.build dialect =
      statement.render dialect >>= fun markup =>
        if 0 < countSlots markup.encode ∧ hasNames markup.encode then
          .error .mixedParameters
        else .ok (numberSlots dialect markup.encode) := by
  simp only [build, buildLogged, renderLogged_eq, Logged.result_bind, Logged.result_ofWriting,
    apply_ite Logged.result, Logged.result_of, result_numberSlotsLogged, Logged.result_record,
    Logged.result_pure]
  rfl

end Statement

end Trees

end SqlText
