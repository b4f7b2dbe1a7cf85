import SqlText.Proofs.Statement.Reads

/-!
# Faults of writing

A statement can fail to be written for a few reasons only: refused steps, operands
that its operators do not take, and texts that could be taken for marks.  A
computation is followed through its steps: as long as each of them fails for such a
reason, so does the whole.

All messages of these faults start with words of their own.  A message about mixed
parameters or about an unterminated name therefore never comes from writing
(`Fault.message_ne_of_isOfWriting`).
-/

namespace SqlText

open Markup (text joined)

/-- Whether a fault is one that writing a statement can find. -/
def Fault.isOfWriting : Fault → Bool
  | rejected _ problems => !problems.isEmpty
  | emptyParameterName | reservedInParameterName _ | reservedInString _ => true
  | missingLeft _ | missingRight _ | unexpectedLeft _ | unexpectedRight _ => true
  | rangeWithoutArray _ | rangeOfLength _ _ | membershipWithoutArray _ => true
  | anyUnsupported _ => true
  | _ => false

/-- Whether a fault is about the text of a value or of a name. -/
def Fault.isOfText : Fault → Bool
  | emptyParameterName | reservedInParameterName _ | reservedInString _ => true
  | _ => false

theorem Fault.isOfWriting_of_isOfText {fault : Fault} (h : fault.isOfText = true) :
    fault.isOfWriting = true := by
  cases fault <;> first | rfl | cases h

/-! ## Messages -/

theorem append_ne_of_not_prefix {start other : String} (h : ¬ start.toList <+: other.toList)
    (rest : String) : start ++ rest ≠ other := by
  rintro rfl
  rw [String.toList_append] at h
  exact h (List.prefix_append _ _)

theorem append_append_ne_of_not_prefix {start other : String}
    (h : ¬ start.toList <+: other.toList) (middle rest : String) :
    start ++ middle ++ rest ≠ other := by
  rw [String.append_assoc]
  exact append_ne_of_not_prefix h _

theorem exists_intercalate_eq_append (separator first : String) (rest : List String) :
    ∃ others, separator.intercalate (first :: rest) = first ++ others := by
  cases rest with
  | nil => exact ⟨"", by simp⟩
  | cons next more =>
      rw [String.intercalate_cons_cons, String.append_assoc]
      exact ⟨_, rfl⟩

theorem Condition.text_append_ne {other : Fault}
    (hother : other = .mixedParameters ∨ other = .unterminatedName) (condition : Condition)
    (rest : String) : condition.text ++ rest ≠ other.message := by
  rcases hother with rfl | rfl <;> cases condition <;>
    exact append_ne_of_not_prefix (by decide) rest

/-- What writing reports is worded differently from what is reported about the text as
a whole. -/
theorem Fault.message_ne_of_isOfWriting {fault other : Fault} (h : fault.isOfWriting = true)
    (hother : other = .mixedParameters ∨ other = .unterminatedName) :
    fault.message ≠ other.message := by
  cases fault with
  | rejected kind problems =>
      cases problems with
      | nil => cases h
      | cons problem rest =>
          -- the message starts with that of the first refused step
          show "; ".intercalate (problem.message :: rest.map Problem.message) ≠ _
          obtain ⟨others, hothers⟩ :=
            exists_intercalate_eq_append "; " problem.message (rest.map Problem.message)
          rw [hothers]
          rcases hother with rfl | rfl <;> cases problem <;>
            exact append_ne_of_not_prefix (by decide) _
  | emptyParameterName => rcases hother with rfl | rfl <;> decide
  | missingLeft condition | missingRight condition | unexpectedLeft condition
  | unexpectedRight condition =>
      rcases hother with rfl | rfl <;> exact append_ne_of_not_prefix (by decide) _
  | reservedInParameterName text | reservedInString text | anyUnsupported text =>
      rcases hother with rfl | rfl <;> exact append_append_ne_of_not_prefix (by decide) _ _
  | rangeWithoutArray condition | membershipWithoutArray condition =>
      exact condition.text_append_ne hother _
  | rangeOfLength condition count =>
      show condition.text ++ " requires a 2-element array, got " ++ toString count ++
        " elements" ≠ _
      rw [String.append_assoc, String.append_assoc]
      exact condition.text_append_ne hother _
  | _ => cases h

/-! ## Computations that fail -/

/-- A computation only fails with faults of a class. -/
def FailsWith {α : Type} (isOf : Fault → Bool) (result : Except Fault α) : Prop :=
  ∀ fault, result = .error fault → isOf fault = true

/-- A computation only fails with faults of writing. -/
abbrev FailsInWriting {α : Type} (result : Except Fault α) : Prop :=
  FailsWith Fault.isOfWriting result

namespace FailsWith

variable {α β : Type} {isOf : Fault → Bool}

theorem ok {value : α} : FailsWith isOf (.ok value) :=
  fun _ h => nomatch h

theorem pure {value : α} : FailsWith isOf (Pure.pure value) :=
  ok

theorem error {fault : Fault} (h : isOf fault = true) :
    FailsWith isOf (.error fault : Except Fault α) := by
  intro other hother
  cases hother
  exact h

theorem bind {first : Except Fault α} {next : α → Except Fault β} (hfirst : FailsWith isOf first)
    (hnext : ∀ value, FailsWith isOf (next value)) : FailsWith isOf (first >>= next) := by
  intro fault h
  cases first with
  | error found =>
      obtain rfl : found = fault := Except.error.inj h
      exact hfirst found rfl
  | ok value => exact hnext value fault h

theorem map {first : Except Fault α} {change : α → β} (hfirst : FailsWith isOf first) :
    FailsWith isOf (first.map change) := by
  intro fault h
  cases first with
  | error found =>
      obtain rfl : found = fault := Except.error.inj h
      exact hfirst found rfl
  | ok value => cases h

theorem mapM {write : α → Except Fault β} {items : List α}
    (h : ∀ item ∈ items, FailsWith isOf (write item)) : FailsWith isOf (items.mapM write) := by
  induction items with
  | nil => exact pure
  | cons item rest ih =>
      rw [List.mapM_cons]
      have hrest := ih fun other hother => h other (List.mem_cons_of_mem _ hother)
      exact (h item (List.mem_cons_self ..)).bind fun _ => hrest.bind fun _ => pure

theorem imp {result : Except Fault α} {isOfOther : Fault → Bool} (h : FailsWith isOf result)
    (himp : ∀ {fault}, isOf fault = true → isOfOther fault = true) : FailsWith isOfOther result :=
  fun fault hfault => himp (h fault hfault)

end FailsWith

/-! ## Leaves -/

variable {dialect : Dialect}

theorem failsWith_renderString (content : String) :
    FailsWith Fault.isOfText (renderString dialect content) := by
  unfold renderString
  split
  · exact .error rfl
  · exact .ok

theorem Value.failsWith_text (value : Value) :
    FailsWith Fault.isOfText (value.render dialect) := by
  cases value with
  | string content => exact failsWith_renderString content
  | _ => exact .ok

theorem Parameter.failsWith_text (parameter : Parameter) :
    FailsWith Fault.isOfText (parameter.render dialect) := by
  obtain ⟨_ | name⟩ := parameter
  · exact .ok
  · rw [render]
    split
    · exact .error rfl
    · split
      · exact .error rfl
      · split <;> exact .ok

theorem Elements.failsWith_text (elements : Elements) :
    FailsWith Fault.isOfText (elements.render dialect) := by
  cases elements with
  | strings items => exact .mapM fun item _ => failsWith_renderString item
  | parameters items => exact .mapM fun item _ => item.failsWith_text
  | _ => exact .ok

theorem Operand.failsWith_text_elements (operand : Operand) :
    FailsWith Fault.isOfText (operand.renderElements dialect) := by
  unfold renderElements
  split
  case h_1 elements _ => exact elements.failsWith_text.map
  case h_2 => exact .ok

theorem Operand.failsInWriting_elements (operand : Operand) :
    FailsInWriting (operand.renderElements dialect) :=
  operand.failsWith_text_elements.imp Fault.isOfWriting_of_isOfText

theorem Slots.failsInWriting_check (slots : Slots) (kind : StatementKind) :
    FailsInWriting (slots.check kind) := by
  rw [check_eq]
  split
  case isTrue => exact .ok
  case isFalse hproblems => exact .error (by simpa [Fault.isOfWriting] using hproblems)

/-! ## Conditions by the form of their operator -/

theorem failsInWriting_range {condition : Condition} {left right : Operand}
    (hform : condition.form = .range) (hleft : FailsInWriting (left.render dialect)) :
    FailsInWriting (Clause.render dialect ⟨condition, some left, some right⟩) := by
  rw [Clause.render_range hform]
  refine hleft.bind fun subject => right.failsInWriting_elements.bind fun markups? => ?_
  split
  · exact .pure
  · exact .error rfl
  · exact .error rfl

theorem failsInWriting_member {condition : Condition} {left right : Operand} {whenEmpty : String}
    (hform : condition.form = .membership whenEmpty) (hquery : ∀ select, right ≠ .query select)
    (hleft : FailsInWriting (left.render dialect)) :
    FailsInWriting (Clause.render dialect ⟨condition, some left, some right⟩) := by
  rw [Clause.render_member hform hquery]
  refine hleft.bind fun subject => right.failsInWriting_elements.bind fun markups? => ?_
  split
  · exact .pure
  · exact .pure
  · exact .error rfl

/-! ## Statements -/

mutual

theorem Operand.failsInWriting : ∀ operand : Operand, FailsInWriting (operand.render dialect)
  | .clause clause => by
      rw [Operand.render]
      exact clause.failsInWriting.bind fun _ => .pure
  | .value value => by
      rw [Operand.render]
      exact value.failsWith_text.imp Fault.isOfWriting_of_isOfText
  | .array _ | .column _ | .expression _ => by
      rw [Operand.render]
      exact .ok
  | .parameter parameter => by
      rw [Operand.render]
      exact parameter.failsWith_text.imp Fault.isOfWriting_of_isOfText
  | .query select | .all select => by
      rw [Operand.render]
      exact select.failsInWriting.bind fun _ => .pure
  | .any select => by
      rw [Operand.render]
      split
      · exact select.failsInWriting.bind fun _ => .pure
      · exact .error rfl

theorem Clause.failsInWriting : ∀ clause : Clause, FailsInWriting (clause.render dialect)
  | ⟨condition, none, none⟩ => by
      rw [Clause.render]
      split <;> exact .error rfl
  | ⟨condition, none, some right⟩ => by
      rw [Clause.render]
      split
      · exact right.failsInWriting.bind fun _ => .pure
      · exact .error rfl
  | ⟨condition, some left, none⟩ => by
      rw [Clause.render]
      split
      · exact left.failsInWriting.bind fun _ => .pure
      · exact .error rfl
  | ⟨condition, some left, some right⟩ => by
      cases hform : condition.form with
      | before | after =>
          rw [Clause.render, hform]
          exact .error rfl
      | binary =>
          rw [Clause.render_binary hform]
          exact left.failsInWriting.bind fun _ => right.failsInWriting.bind fun _ => .pure
      | range => exact failsInWriting_range hform left.failsInWriting
      | membership whenEmpty =>
          cases right with
          | query select =>
              rw [Clause.render_memberOfQuery hform]
              exact left.failsInWriting.bind fun _ => select.failsInWriting.bind fun _ => .pure
          | _ =>
              exact failsInWriting_member hform (fun _ hquery => nomatch hquery)
                left.failsInWriting

theorem Select.failsInWriting : ∀ select : Select, FailsInWriting (select.render dialect)
  | ⟨_, columns, _, _, having?, slots⟩ => by
      rw [Select.render_eq]
      refine (slots.failsInWriting_check _).bind fun _ => ?_
      refine slots.failsInWriting_with.bind fun _ => ?_
      refine (failsInWriting_operands columns).bind fun _ => ?_
      refine slots.failsInWriting_filter.bind fun _ => ?_
      cases having? with
      | none => exact .ok
      | some clause =>
          rw [Phrase.render]
          exact (clause.failsInWriting.bind fun _ => .pure).bind fun _ => .pure

theorem Slots.failsInWriting_with : ∀ slots : Slots, FailsInWriting (slots.renderWith dialect)
  | ⟨_, _, [], _⟩ => .ok
  | ⟨_, _, table :: rest, _⟩ =>
      (failsInWriting_tables (table :: rest)).bind fun _ => .pure

theorem Slots.failsInWriting_filter : ∀ slots : Slots, FailsInWriting (slots.renderFilter dialect)
  | ⟨none, _, _, _⟩ => .ok
  | ⟨some clause, _, _, _⟩ => by
      rw [Slots.renderFilter]
      exact clause.failsInWriting.bind fun _ => .pure

theorem WithTable.failsInWriting : ∀ table : WithTable, FailsInWriting (table.render dialect)
  | ⟨_, select⟩ => by
      rw [WithTable.render]
      exact select.failsInWriting.bind fun _ => .pure

theorem failsInWriting_operands : ∀ operands : List Operand,
    FailsInWriting (renderOperands dialect operands)
  | [] => .ok
  | operand :: rest => by
      rw [renderOperands]
      exact operand.failsInWriting.bind fun _ => (failsInWriting_operands rest).bind fun _ => .pure

theorem failsInWriting_tables : ∀ tables : List WithTable,
    FailsInWriting (renderTables dialect tables)
  | [] => .ok
  | table :: rest => by
      rw [renderTables]
      exact table.failsInWriting.bind fun _ => (failsInWriting_tables rest).bind fun _ => .pure

end

theorem failsInWriting_assignments (assignments : List (Column × Operand)) :
    FailsInWriting (renderAssignments dialect assignments) := by
  induction assignments with
  | nil => exact .ok
  | cons first rest ih =>
      exact first.2.failsInWriting.bind fun _ => ih.bind fun _ => .pure

/-- Writing a statement only fails with faults of writing. -/
theorem Statement.failsInWriting (statement : Statement) :
    FailsInWriting (statement.render dialect) := by
  cases statement with
  | select select => exact select.failsInWriting
  | insert insert =>
      refine (insert.slots.failsInWriting_check _).bind fun _ => ?_
      refine (failsInWriting_operands _).bind fun _ => ?_
      exact insert.slots.failsInWriting_with.bind fun _ => .pure
  | update update =>
      refine (update.slots.failsInWriting_check _).bind fun _ => ?_
      refine update.slots.failsInWriting_with.bind fun _ => ?_
      refine (failsInWriting_assignments _).bind fun _ => ?_
      exact update.slots.failsInWriting_filter.bind fun _ => .pure
  | delete delete =>
      refine (delete.slots.failsInWriting_check _).bind fun _ => ?_
      refine delete.slots.failsInWriting_with.bind fun _ => ?_
      exact delete.slots.failsInWriting_filter.bind fun _ => .pure
  | raw raw =>
      refine (raw.slots.failsInWriting_check _).bind fun _ => ?_
      refine raw.slots.failsInWriting_with.bind fun _ => ?_
      exact raw.slots.failsInWriting_filter.bind fun _ => .pure
  | createIndex creation => exact (creation.slots.failsInWriting_check _).bind fun _ => .pure
  | dropIndex removal => exact (removal.slots.failsInWriting_check _).bind fun _ => .pure

end SqlText
