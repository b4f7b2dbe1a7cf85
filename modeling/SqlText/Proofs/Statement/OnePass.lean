import SqlText.Proofs.Statement.Plain
import SqlText.Proofs.Statement.Tells
import SqlText.Proofs.Statement.Writer

/-!
# One pass writes what building does

What a statement reads as is the common ground.  A writer gives the tokens of the
layout, numbered on from any count (`Reads.writes`), and these are the text of its
markup with all marks filled in (`Layout.textOf_tokens`), which is what numbering
makes of it.
-/

namespace SqlText

open Layout (fixed)

variable {dialect : Dialect} {phrase : Phrase} {layout : Layout}

/-! ## Tokens of layouts -/

theorem textOf_cons (token : Token) (rest : List Token) :
    textOf (token :: rest) = token.text ++ textOf rest := by
  simp [textOf]

namespace Layout

/-- The number of unnamed parameters. -/
def unnamed (layout : Layout) : Nat :=
  layout.parameters.countP fun parameter => parameter.name?.isNone

@[simp] theorem unnamed_nil : unnamed [] = 0 := rfl

@[simp] theorem unnamed_fixed (text : String) : (fixed text).unnamed = 0 := rfl

@[simp] theorem unnamed_append (first second : Layout) :
    (first ++ second : Layout).unnamed = first.unnamed + second.unnamed := by
  simp [unnamed]

/-- The tokens of a layout after `count` placeholders. -/
def tokens (dialect : Dialect) : (count : Nat) → Layout → List Token
  | _, [] => []
  | count, .fixed text :: rest => ⟨none, text⟩ :: tokens dialect count rest
  | count, .parameter ⟨none⟩ :: rest =>
      ⟨some .unnamed, dialect.placeholder (count + 1)⟩ :: tokens dialect (count + 1) rest
  | count, .parameter ⟨some name⟩ :: rest =>
      ⟨some (.named name), (Parameter.markup dialect ⟨some name⟩).encode⟩ ::
        tokens dialect count rest

theorem tokens_append (first second : Layout) (count : Nat) :
    (first ++ second : Layout).tokens dialect count =
      first.tokens dialect count ++ second.tokens dialect (count + first.unnamed) := by
  induction first generalizing count with
  | nil => rfl
  | cons fragment rest ih =>
      rcases fragment with text | ⟨_ | name⟩ <;>
        simp [tokens, unnamed, ih, Nat.add_assoc, Nat.add_comm 1]

theorem countP_markup_fragment (fragment : Fragment) :
    (fragment.markup dialect).countP Piece.isSlot = unnamed [fragment] := by
  rcases fragment with text | ⟨_ | name⟩
  · rfl
  · rfl
  · simp only [Fragment.markup, Parameter.markup]
    cases dialect.text? .namedParameter <;> rfl

/-- The unnamed parameters of a layout are the unnamed places of its markup. -/
theorem countP_markup (layout : Layout) :
    (layout.markup dialect).countP Piece.isSlot = layout.unnamed := by
  induction layout with
  | nil => rfl
  | cons fragment rest ih =>
      rw [markup_cons, List.countP_append, countP_markup_fragment, ih, ← unnamed_append]
      rfl

/-- The tokens of a layout are the text of its markup with the unnamed places filled. -/
theorem textOf_tokens (layout : Layout) (count : Nat) :
    textOf (layout.tokens dialect count) =
      ((layout.markup dialect).fill dialect Piece.isSlot (count + 1)).encode := by
  induction layout generalizing count with
  | nil => rfl
  | cons fragment rest ih =>
      rw [markup_cons, Markup.fill_append, Markup.encode_append, countP_markup_fragment]
      rcases fragment with text | ⟨_ | name⟩
      · simp [tokens, textOf_cons, ih, Fragment.markup, Markup.fill, Markup.text, Piece.isSlot,
          Piece.encode, unnamed]
      · simp [tokens, textOf_cons, ih, Fragment.markup, Parameter.markup, Markup.fill,
          Piece.isSlot, Piece.encode, unnamed]
      · have hslots : (Parameter.markup dialect ⟨some name⟩).countP Piece.isSlot = 0 :=
          countP_markup_fragment (.parameter ⟨some name⟩)
        rw [tokens, textOf_cons, ih, Fragment.markup, Markup.fill_eq_self hslots]
        rfl

end Layout

/-! ## Writers that follow a layout -/

/-- A writer gives the tokens of a layout, whatever was written before. -/
def Writes (dialect : Dialect) (writer : Writer) (layout : Layout) : Prop :=
  ∀ count, writer count = .ok (layout.tokens dialect count, count + layout.unnamed)

namespace Writes

theorem nothing : Writes dialect .nothing [] :=
  fun _ => rfl

theorem fixed {text : String} : Writes dialect (.fixed text) (fixed text) :=
  fun _ => rfl

theorem check {slots : Slots} {kind : StatementKind} (h : slots.problems = []) :
    Writes dialect (.check (slots.check kind)) [] := by
  intro count
  rw [Writer.check, Slots.check_eq_ok_iff.mpr h]
  rfl

theorem value {value : Value} (h : ∀ content, value = .string content → Text.Plain content) :
    Writes dialect (.value dialect value) (Layout.fixed (dialect.literal value)) := by
  intro count
  rw [Writer.value, Value.render_eq_ok_iff.mpr ⟨h, rfl⟩]
  simp [ok_bind, pure, Except.pure, Markup.text, Piece.encode, Layout.fixed, Layout.tokens,
    Layout.unnamed]

theorem parameter {parameter : Parameter} (h : parameter.Usable) :
    Writes dialect (.parameter dialect parameter) [.parameter parameter] := by
  intro count
  obtain ⟨_ | name⟩ := parameter
  · rfl
  · rw [Writer.parameter, Parameter.render_eq_ok_iff.mpr ⟨h, rfl⟩]
    rfl

theorem append {first second : Writer} {layout others : Layout}
    (hfirst : Writes dialect first layout) (hsecond : Writes dialect second others) :
    Writes dialect (first ++ second) (layout ++ others) := by
  intro count
  rw [Layout.tokens_append, Layout.unnamed_append, ← Nat.add_assoc]
  exact bind_eq_ok.mpr ⟨_, hfirst count, bind_eq_ok.mpr ⟨_, hsecond _, rfl⟩⟩

theorem ite {condition : Prop} [Decidable condition] {first second : Writer}
    {layout others : Layout} (hfirst : Writes dialect first layout)
    (hsecond : Writes dialect second others) :
    Writes dialect (if condition then first else second)
      (if condition then layout else others) := by
  split
  · exact hfirst
  · exact hsecond

theorem suffix {slots : Slots} : Writes dialect slots.writeSuffix slots.suffixLayout := by
  unfold Slots.writeSuffix Slots.suffixLayout
  cases slots.suffix? with
  | none => exact nothing
  | some suffix => exact fixed

theorem names {slots : Slots} {keyword : String} :
    Writes dialect (slots.writeNames dialect keyword) (slots.namesLayout dialect keyword) := by
  unfold Slots.writeNames Slots.namesLayout
  cases slots.withTables with
  | nil => exact nothing
  | cons table rest => exact fixed

theorem grouping {columns : List Column} :
    Writes dialect (writeGrouping dialect columns) (groupingLayout dialect columns) := by
  cases columns with
  | nil => exact nothing
  | cons column rest => exact fixed

end Writes

/-! ## Writers of phrases -/

/-- Writes an entry. -/
def Entry.write (dialect : Dialect) : Entry → Writer
  | operand given => given.write dialect
  | assignment column value => writeAssignment dialect column value
  | table given => given.write dialect

/-- Writes a phrase. -/
def Phrase.write (dialect : Dialect) : Phrase → Writer
  | entry given => given.write dialect
  | entries given => .separated ", " (given.map (Entry.write dialect))
  | clause given => given.write dialect
  | condition keyword (some given) => .fixed keyword ++ given.write dialect
  | condition _ none => .nothing
  | withTables [] => .nothing
  | withTables tables =>
      .fixed "WITH " ++ .separated ", " (tables.map (WithTable.write dialect)) ++ .fixed " "
  | select given => given.write dialect
  | statement given => given.write dialect

theorem operandWriters_eq (operands : List Operand) :
    operandWriters dialect operands = (entriesOf operands).map (Entry.write dialect) := by
  induction operands with
  | nil => rfl
  | cons operand rest ih =>
      rw [operandWriters, ih]
      rfl

theorem tableWriters_eq (tables : List WithTable) :
    tableWriters dialect tables = tables.map (WithTable.write dialect) := by
  induction tables with
  | nil => rfl
  | cons table rest ih =>
      rw [tableWriters, ih]
      rfl

theorem Elements.writers_eq (elements : Elements) :
    elements.writers dialect = (entriesOf elements.operands).map (Entry.write dialect) := by
  cases elements <;>
    simp only [writers, operands, entriesOf, List.map_map, Function.comp_def, Entry.write,
      Operand.write]

theorem Slots.writeWith_eq (slots : Slots) :
    slots.writeWith dialect = Phrase.write dialect (.withTables slots.withTables) := by
  obtain ⟨_, _, _ | ⟨table, tables⟩, _⟩ := slots
  · rfl
  · rw [Slots.writeWith, tableWriters_eq]
    · rfl
    · exact fun h => nomatch h

theorem Slots.writeFilter_eq (slots : Slots) :
    slots.writeFilter dialect = Phrase.write dialect (.condition " WHERE " slots.filter?) := by
  obtain ⟨_ | clause, _, _, _⟩ := slots <;> rfl

theorem writeHaving_eq (clause? : Option Clause) :
    writeHaving dialect clause? = Phrase.write dialect (.condition " HAVING " clause?) := by
  cases clause? <;> rfl

section Clauses

variable {condition : Condition} {left right : Operand}

theorem Clause.write_before (h : condition.form = .before) :
    Clause.write dialect ⟨condition, none, some right⟩ =
      .fixed (condition.text ++ " ") ++ right.write dialect := by
  rw [Clause.write, Condition.standsBefore, h]
  rfl

theorem Clause.write_after (h : condition.form = .after) :
    Clause.write dialect ⟨condition, some left, none⟩ =
      left.write dialect ++ .fixed (" " ++ condition.text) := by
  rw [Clause.write, Condition.standsAfter, h]
  rfl

theorem Clause.write_binary (h : condition.form = .binary) :
    Clause.write dialect ⟨condition, some left, some right⟩ =
      left.write dialect ++ .fixed (" " ++ condition.text ++ " ") ++ right.write dialect := by
  rw [Clause.write, h]

theorem Clause.write_range {elements : Elements} {low high : Operand}
    (h : condition.form = .range) (hoperands : elements.operands = [low, high]) :
    Clause.write dialect ⟨condition, some left, some (.array elements)⟩ =
      left.write dialect ++ .fixed (" " ++ condition.text ++ " ") ++ low.write dialect ++
        .fixed " AND " ++ high.write dialect := by
  have hwriters : elements.writers dialect = _ := elements.writers_eq
  rw [hoperands] at hwriters
  rw [Clause.write, h]
  simp only [Operand.elementWriters?, Operand.elements?, Option.map_some, hwriters]
  rfl

theorem Clause.write_memberOfQuery {whenEmpty : String} {select : Select}
    (h : condition.form = .membership whenEmpty) :
    Clause.write dialect ⟨condition, some left, some (.query select)⟩ =
      left.write dialect ++ .fixed (" " ++ condition.text ++ " (") ++ select.write dialect ++
        .fixed ")" := by
  rw [Clause.write, h]

theorem Clause.write_memberOfNothing {whenEmpty : String} {elements : Elements}
    (h : condition.form = .membership whenEmpty) (hoperands : elements.operands = []) :
    Clause.write dialect ⟨condition, some left, some (.array elements)⟩ = .fixed whenEmpty := by
  have hwriters : elements.writers dialect = _ := elements.writers_eq
  rw [hoperands] at hwriters
  rw [Clause.write, h]
  simp only [Operand.elementWriters?, Operand.elements?, Option.map_some, hwriters]
  rfl

theorem Clause.write_memberOfList {whenEmpty : String} {elements : Elements}
    (h : condition.form = .membership whenEmpty) (hoperands : elements.operands ≠ []) :
    Clause.write dialect ⟨condition, some left, some (.array elements)⟩ =
      left.write dialect ++ .fixed (" " ++ condition.text ++ " (") ++
        Phrase.write dialect (.entries (entriesOf elements.operands)) ++ .fixed ")" := by
  have hwriters : elements.writers dialect = _ := elements.writers_eq
  rw [Clause.write, h]
  simp only [Operand.elementWriters?, Operand.elements?, Option.map_some, hwriters]
  cases helements : elements.operands with
  | nil => exact absurd helements hoperands
  | cons first rest => rfl

end Clauses

/-- Going through a phrase in the order of its text writes what it reads as. -/
theorem Reads.writes (h : Reads dialect phrase layout) :
    Writes dialect (phrase.write dialect) layout := by
  -- writers and layouts have the same parts, which are taken off from the end
  induction h with
  | nested _ ih | query _ ih | all _ ih =>
      rw [Phrase.write, Entry.write, Operand.write]
      exact (Writes.fixed.append ih).append .fixed
  | any hallowed _ ih =>
      rw [Phrase.write, Entry.write, Operand.write, if_pos hallowed]
      exact (Writes.fixed.append ih).append .fixed
  | value hvalue => exact .value hvalue
  | array => exact .nothing
  | column | expression => exact .fixed
  | parameter husable => exact .parameter husable
  | assignment _ ih => exact Writes.fixed.append ih
  | table _ ih => exact (Writes.fixed.append ih).append .fixed
  | none => exact .nothing
  | one _ ih => exact ih
  | more _ _ ihfirst ihrest => exact (ihfirst.append .fixed).append ihrest
  | before hform _ ih =>
      rw [Phrase.write, Clause.write_before hform]
      exact Writes.fixed.append ih
  | after hform _ ih =>
      rw [Phrase.write, Clause.write_after hform]
      exact ih.append .fixed
  | binary hform _ _ ihleft ihright =>
      rw [Phrase.write, Clause.write_binary hform]
      exact (ihleft.append .fixed).append ihright
  | range hform hoperands _ _ _ ihleft ihlow ihhigh =>
      rw [Phrase.write, Clause.write_range hform hoperands]
      exact (((ihleft.append .fixed).append ihlow).append .fixed).append ihhigh
  | memberOfQuery hform _ _ ihleft ihquery =>
      rw [Phrase.write, Clause.write_memberOfQuery hform]
      exact ((ihleft.append .fixed).append ihquery).append .fixed
  | memberOfNothing hform hoperands =>
      rw [Phrase.write, Clause.write_memberOfNothing hform hoperands]
      exact .fixed
  | memberOfList hform hoperands _ _ ihleft ihitems =>
      rw [Phrase.write, Clause.write_memberOfList hform hoperands]
      exact ((ihleft.append .fixed).append ihitems).append .fixed
  | absent | withoutTables => exact .nothing
  | present _ ih => exact Writes.fixed.append ih
  | @withTables tables _ hne _ ih =>
      cases tables with
      | nil => exact absurd rfl hne
      | cons table rest =>
          rw [Phrase.write, List.map_map] at ih
          exact (Writes.fixed.append ih).append .fixed
  | select hproblems _ _ _ _ ihhead ihitems ihfilter ihhaving =>
      rw [← Slots.writeWith_eq] at ihhead
      rw [← Slots.writeFilter_eq] at ihfilter
      rw [← writeHaving_eq] at ihhaving
      rw [Phrase.write, Select.write, operandWriters_eq]
      refine .append ?_ .suffix
      refine .append ?_ ihhaving
      refine .append ?_ .grouping
      refine .append ?_ ihfilter
      refine .append ?_ .fixed
      refine .append ?_ (.ite .fixed ihitems)
      refine .append ?_ .fixed
      exact (Writes.check hproblems).append ihhead
  | selectStatement _ ih => exact ih
  | insertStatement hproblems _ _ ihhead ihvalues =>
      rw [← Slots.writeWith_eq] at ihhead
      rw [Phrase.write, Statement.write, operandWriters_eq]
      refine .append ?_ .suffix
      refine .append ?_ .fixed
      refine .append ?_ ihvalues
      refine .append ?_ .fixed
      exact (Writes.check hproblems).append ihhead
  | updateStatement hproblems _ _ _ ihhead ihassignments ihfilter =>
      rw [← Slots.writeWith_eq] at ihhead
      rw [← Slots.writeFilter_eq] at ihfilter
      rw [Phrase.write, List.map_map] at ihassignments
      rw [Phrase.write, Statement.write]
      refine .append ?_ .suffix
      refine .append ?_ ihfilter
      refine .append ?_ (.ite .names .nothing)
      refine .append ?_ ihassignments
      refine .append ?_ .fixed
      exact (Writes.check hproblems).append ihhead
  | deleteStatement hproblems _ _ ihhead ihfilter =>
      rw [← Slots.writeWith_eq] at ihhead
      rw [← Slots.writeFilter_eq] at ihfilter
      rw [Phrase.write, Statement.write]
      refine .append ?_ .suffix
      refine .append ?_ ihfilter
      refine .append ?_ (.ite .names .nothing)
      refine .append ?_ .fixed
      exact (Writes.check hproblems).append ihhead
  | rawStatement hproblems _ _ ihhead ihfilter =>
      rw [← Slots.writeWith_eq] at ihhead
      rw [← Slots.writeFilter_eq] at ihfilter
      rw [Phrase.write, Statement.write]
      refine .append ?_ .suffix
      refine .append ?_ ihfilter
      refine .append ?_ .fixed
      exact (Writes.check hproblems).append ihhead
  | createIndexStatement hproblems | dropIndexStatement hproblems =>
      exact ((Writes.check hproblems).append .fixed).append .suffix

/-! ## Building -/

/-- A statement that is built is plain markup with its unnamed places filled. -/
theorem Statement.exists_of_build_eq_ok {statement : Statement} {sql : String}
    (hdialect : dialect.Plain) (hstatement : statement.Plain)
    (h : statement.build dialect = .ok sql) :
    ∃ layout, Reads dialect (.statement statement) layout ∧ (layout.markup dialect).Plain ∧
      sql = ((layout.markup dialect).fill dialect Piece.isSlot 1).encode := by
  rw [build_eq] at h
  obtain ⟨markup, hmarkup, h⟩ := bind_eq_ok.mp h
  obtain ⟨layout, hreads, rfl⟩ := render_eq_ok_iff.mp hmarkup
  have hplain := hstatement.markup hdialect hreads
  refine ⟨layout, hreads, hplain, ?_⟩
  split at h
  case isTrue => cases h
  case isFalse => rw [← Except.ok.inj h, numberSlots_encode dialect hplain]

/-- Building gives the text that is written in one pass, from a count of no
placeholders to a count of all the marks. -/
theorem Statement.build_eq_text_of_write {statement : Statement} {sql : String}
    (hdialect : dialect.Plain) (hstatement : statement.Plain)
    (h : statement.build dialect = .ok sql) :
    ∃ tokens markup, statement.render dialect = .ok markup ∧
      statement.write dialect 0 = .ok (tokens, countSlots markup.encode) ∧
      sql = textOf tokens := by
  obtain ⟨layout, hreads, hplain, rfl⟩ := exists_of_build_eq_ok hdialect hstatement h
  refine ⟨layout.tokens dialect 0, layout.markup dialect, hreads.render_eq, ?_, ?_⟩
  · have hwrites := hreads.writes 0
    rw [Nat.zero_add] at hwrites
    rw [countSlots_encode hplain, layout.countP_markup]
    exact hwrites
  · rw [layout.textOf_tokens]

/-- An insertion with placeholders in a named query and among its values.  The
membership test has one too, which is not part of the text. -/
def Insert.sample : Insert where
  table := ⟨"log"⟩
  values := [
    (⟨"log", "code"⟩, .parameter .unnamed),
    (⟨"log", "seen"⟩, .clause (.binary (.parameter .unnamed) .inList (.array (.ints []))))]
  slots := {
    Slots.empty with
    withTables := [⟨"recent", { Select.of ⟨"orders"⟩ with columns := [.parameter .unnamed] }⟩] }
  values_ne_nil := List.cons_ne_nil _ _

theorem Statement.build_eq_text_of_write_sample :
    ∃ tokens markup, (Statement.insert .sample).render .postgres = .ok markup ∧
      (Statement.insert .sample).write .postgres 0 = .ok (tokens, countSlots markup.encode) ∧
      "WITH recent AS (SELECT $1 FROM orders) INSERT INTO log (code, seen) VALUES ($2, (1=0))" =
        textOf tokens :=
  build_eq_text_of_write (by decide) (by decide) rfl

end SqlText
