import SqlText.Proofs.Statement.Layout

/-!
# Writing follows the rules

`Reads` and `render` describe the same texts.  One direction goes through the tree
in the way `render` does, and finds for every phrase that is written the rule that
it follows; the other is an induction on the rules.  Lists of operands, assignments
and named queries are written by functions of their own, so they are first all seen
as lists of entries.
-/

namespace SqlText

open Markup (text joined)
open Layout (fixed)

variable {dialect : Dialect}

/-! ## Lists of entries -/

/-- Writes an entry. -/
def Entry.render (dialect : Dialect) : Entry → Except Fault Markup
  | operand given => given.render dialect
  | assignment column value => do
      return text (column.text dialect ++ " = ") ++ (← value.render dialect)
  | table given => given.render dialect

theorem renderOperands_eq (operands : List Operand) :
    renderOperands dialect operands = (entriesOf operands).mapM (Entry.render dialect) := by
  induction operands with
  | nil => rfl
  | cons operand rest ih =>
      simp only [renderOperands, entriesOf, List.map_cons, List.mapM_cons, ih, Entry.render]

theorem renderTables_eq (tables : List WithTable) :
    renderTables dialect tables = (tables.map Entry.table).mapM (Entry.render dialect) := by
  induction tables with
  | nil => rfl
  | cons table rest ih =>
      simp only [renderTables, List.map_cons, List.mapM_cons, ih, Entry.render]

theorem renderAssignments_eq (assignments : List (Column × Operand)) :
    renderAssignments dialect assignments =
      (assignments.map fun entry => Entry.assignment entry.1 entry.2).mapM
        (Entry.render dialect) := by
  induction assignments with
  | nil => rfl
  | cons first rest ih =>
      simp only [renderAssignments, List.map_cons, List.mapM_cons, ih, Entry.render]
      cases first.2.render dialect <;> rfl

theorem mapM_ok {α : Type} (write : α → Markup) (items : List α) :
    items.mapM (fun item => (Except.ok (write item) : Except Fault Markup)) =
      .ok (items.map write) := by
  apply mapM_eq_ok_iff.mpr
  rw [List.map_map]
  rfl

/-- Operands are written as entries like they are on their own. -/
theorem mapM_entriesOf (operands : List Operand) :
    (entriesOf operands).mapM (Entry.render dialect) =
      operands.mapM (Operand.render dialect) := by
  rw [entriesOf, List.mapM_map]
  rfl

/-- The elements of an array are written as operands of their own. -/
theorem Elements.render_eq (elements : Elements) :
    elements.render dialect =
      (entriesOf elements.operands).mapM (Entry.render dialect) := by
  cases elements <;>
    simp only [Elements.render, Elements.operands, entriesOf, List.map_map, List.mapM_map,
      Function.comp_def, Entry.render, Operand.render, Value.render, Recording.ofResult_eq,
      mapM_ok]

theorem isEmpty_of_mapM_eq_ok {entries : List Entry} {markups : List Markup}
    (h : entries.mapM (Entry.render dialect) = .ok markups) :
    markups.isEmpty = entries.isEmpty := by
  rw [Bool.eq_iff_iff, List.isEmpty_iff_length_eq_zero, List.isEmpty_iff_length_eq_zero,
    length_of_mapM_eq_ok h]

/-! ## Phrases as they are written -/

/-- Writes a phrase. -/
def Phrase.render (dialect : Dialect) : Phrase → Except Fault Markup
  | entry given => given.render dialect
  | entries given => do
      return joined ", " (← given.mapM (Entry.render dialect))
  | clause given => given.render dialect
  | condition keyword clause? =>
      match clause? with
      | some given => do
          return text keyword ++ (← given.render dialect)
      | none => .ok []
  | withTables tables =>
      match tables with
      | [] => .ok []
      | tables => do
          return text "WITH " ++
            joined ", " (← (tables.map Entry.table).mapM (Entry.render dialect)) ++ text " "
  | select given => given.render dialect
  | statement given => given.render dialect

theorem Slots.renderWith_eq (slots : Slots) :
    slots.renderWith dialect = Phrase.render dialect (.withTables slots.withTables) := by
  obtain ⟨_, _, _ | ⟨table, tables⟩, _⟩ := slots
  · rfl
  · rw [Slots.renderWith, renderTables_eq]
    · rfl
    · exact fun h => nomatch h

theorem Slots.renderFilter_eq (slots : Slots) :
    slots.renderFilter dialect = Phrase.render dialect (.condition " WHERE " slots.filter?) := by
  obtain ⟨_ | clause, _, _, _⟩ := slots <;> rfl

theorem Select.render_eq {table : Table} {columns : List Operand} {distinct : Bool}
    {groupBy : List Column} {having? : Option Clause} {slots : Slots} :
    Select.render dialect ⟨table, columns, distinct, groupBy, having?, slots⟩ = do
      slots.check .select
      let head ← slots.renderWith dialect
      let items ← renderOperands dialect columns
      let filter ← slots.renderFilter dialect
      let having ← Phrase.render dialect (.condition " HAVING " having?)
      return head ++ text ("SELECT " ++ if distinct then "DISTINCT " else "") ++
        (if items.isEmpty then text "*" else joined ", " items) ++
        text (" FROM " ++ table.text dialect) ++ filter ++ renderGrouping dialect groupBy ++
        having ++ slots.renderSuffix := by
  rw [Select.render]
  cases having? with
  | none => rfl
  | some clause => simp only [Phrase.render, bind_assoc, pure_bind]

/-- Some layout of a phrase is written as the given markup. -/
def HasLayout (dialect : Dialect) (phrase : Phrase) (markup : Markup) : Prop :=
  ∃ layout, Reads dialect phrase layout ∧ layout.markup dialect = markup

/-! ## What is written has a layout -/

theorem Condition.form_of_standsBefore {condition : Condition}
    (h : condition.standsBefore = true) : condition.form = .before := by
  simpa [standsBefore] using h

theorem Condition.form_of_standsAfter {condition : Condition}
    (h : condition.standsAfter = true) : condition.form = .after := by
  simpa [standsAfter] using h

theorem joined_cons {separator : String} {first : Markup} {rest : List Markup}
    (h : rest.isEmpty = false) :
    joined separator (first :: rest) = first ++ text separator ++ joined separator rest := by
  cases rest with
  | nil => exact absurd h (by decide)
  | cons next more => rfl

theorem HasLayout.behind {inner outer : Phrase} {before : String} {write : Except Fault Markup}
    {markup : Markup}
    (hinner : ∀ part, write = .ok part → HasLayout dialect inner part)
    (hrule : ∀ layout, Reads dialect inner layout → Reads dialect outer (fixed before ++ layout))
    (h : (do return text before ++ (← write)) = Except.ok markup) :
    HasLayout dialect outer markup := by
  obtain ⟨part, hpart, h⟩ := bind_eq_ok.mp h
  obtain ⟨layout, hreads, rfl⟩ := hinner part hpart
  refine ⟨_, hrule layout hreads, ?_⟩
  rw [← pure_eq_ok.mp h]
  simp

theorem HasLayout.between {inner outer : Phrase} {before after : String}
    {write : Except Fault Markup} {markup : Markup}
    (hinner : ∀ part, write = .ok part → HasLayout dialect inner part)
    (hrule : ∀ layout, Reads dialect inner layout →
      Reads dialect outer (fixed before ++ layout ++ fixed after))
    (h : (do return text before ++ (← write) ++ text after) = Except.ok markup) :
    HasLayout dialect outer markup := by
  obtain ⟨part, hpart, h⟩ := bind_eq_ok.mp h
  obtain ⟨layout, hreads, rfl⟩ := hinner part hpart
  refine ⟨_, hrule layout hreads, ?_⟩
  rw [← pure_eq_ok.mp h]
  simp

theorem HasLayout.entries {entries : List Entry}
    (h : ∀ entry ∈ entries, ∀ markup, entry.render dialect = .ok markup →
      HasLayout dialect (.entry entry) markup)
    {markups : List Markup} (hrender : entries.mapM (Entry.render dialect) = .ok markups) :
    HasLayout dialect (.entries entries) (joined ", " markups) := by
  induction entries generalizing markups with
  | nil =>
      rw [← pure_eq_ok.mp hrender]
      exact ⟨[], .none, rfl⟩
  | cons entry rest ih =>
      simp only [List.mapM_cons, bind_eq_ok, pure_eq_ok] at hrender
      obtain ⟨markup, hmarkup, others, hothers, rfl⟩ := hrender
      obtain ⟨layout, hreads, rfl⟩ := h entry (List.mem_cons_self ..) markup hmarkup
      have hisEmpty := isEmpty_of_mapM_eq_ok hothers
      cases rest with
      | nil =>
          obtain rfl : others = [] := List.isEmpty_iff.mp hisEmpty
          exact ⟨layout, .one hreads, rfl⟩
      | cons next more =>
          obtain ⟨tail, htail, hmarkups⟩ :=
            ih (fun entry hentry => h entry (List.mem_cons_of_mem _ hentry)) hothers
          refine ⟨_, .more hreads htail, ?_⟩
          rw [joined_cons hisEmpty, ← hmarkups]
          simp

theorem Value.render_eq_ok_iff {value : Value} {markup : Markup} :
    value.render dialect = .ok markup ↔
      (∀ content, value = .string content → Text.Plain content) ∧
        text (dialect.literal value) = markup := by
  cases value with
  | string content =>
      simp only [Value.render, renderString, Text.Plain, Value.string.injEq, forall_eq']
      split <;> simp_all
  | _ => simp [Value.render]

theorem Value.hasLayout {value : Value} {markup : Markup}
    (h : value.render dialect = .ok markup) :
    HasLayout dialect (.entry (.operand (.value value))) markup := by
  obtain ⟨hplain, rfl⟩ := Value.render_eq_ok_iff.mp h
  exact ⟨_, .value hplain, rfl⟩

theorem Parameter.hasLayout {parameter : Parameter} {markup : Markup}
    (h : parameter.render dialect = .ok markup) :
    HasLayout dialect (.entry (.operand (.parameter parameter))) markup := by
  obtain ⟨husable, rfl⟩ := Parameter.render_eq_ok_iff.mp h
  exact ⟨_, .parameter husable, by simp⟩

/-- The elements of an array are values or parameters, so they need no induction. -/
theorem Elements.hasLayout (elements : Elements) :
    ∀ entry ∈ entriesOf elements.operands, ∀ markup, entry.render dialect = .ok markup →
      HasLayout dialect (.entry entry) markup := by
  intro entry hentry markup h
  obtain ⟨operand, hoperand, rfl⟩ := List.mem_map.mp hentry
  cases elements
  case parameters items =>
    obtain ⟨parameter, -, rfl⟩ := List.mem_map.mp hoperand
    exact Parameter.hasLayout h
  all_goals
    obtain ⟨item, -, rfl⟩ := List.mem_map.mp hoperand
    exact Value.hasLayout h

/-! ### Clauses by the form of their operator -/

section Clauses

variable {condition : Condition} {left right : Operand}

theorem Clause.render_before (h : condition.form = .before) :
    Clause.render dialect ⟨condition, none, some right⟩ = do
      return text (condition.text ++ " ") ++ (← right.render dialect) := by
  rw [Clause.render, Condition.standsBefore, h]
  rfl

theorem Clause.render_after (h : condition.form = .after) :
    Clause.render dialect ⟨condition, some left, none⟩ = do
      return (← left.render dialect) ++ text (" " ++ condition.text) := by
  rw [Clause.render, Condition.standsAfter, h]
  rfl

theorem Clause.render_binary (h : condition.form = .binary) :
    Clause.render dialect ⟨condition, some left, some right⟩ = do
      return (← left.render dialect) ++ text (" " ++ condition.text ++ " ") ++
        (← right.render dialect) := by
  rw [Clause.render, h]

theorem Clause.render_range (h : condition.form = .range) :
    Clause.render dialect ⟨condition, some left, some right⟩ = (do
      let subject ← left.render dialect
      match ← right.renderElements dialect with
      | some [low, high] =>
          return subject ++ text (" " ++ condition.text ++ " ") ++ low ++ text " AND " ++ high
      | some items => throw (.rangeOfLength condition items.length)
      | none => throw (.rangeWithoutArray condition)) := by
  rewrite [Clause.render, h]
  rfl

theorem Clause.render_memberOfQuery {whenEmpty : String} {select : Select}
    (h : condition.form = .membership whenEmpty) :
    Clause.render dialect ⟨condition, some left, some (.query select)⟩ = do
      let subject ← left.render dialect
      return subject ++ text (" " ++ condition.text ++ " (") ++ (← select.render dialect) ++
        text ")" := by
  rw [Clause.render, h]

theorem Clause.render_member {whenEmpty : String} (h : condition.form = .membership whenEmpty)
    (hquery : ∀ select, right ≠ .query select) :
    Clause.render dialect ⟨condition, some left, some right⟩ = (do
      let subject ← left.render dialect
      match ← right.renderElements dialect with
      | some [] => return text whenEmpty
      | some items =>
          return subject ++ text (" " ++ condition.text ++ " (") ++ joined ", " items ++ text ")"
      | none => throw (.membershipWithoutArray condition)) := by
  rw [Clause.render, h]
  cases right
  case query select => exact absurd rfl (hquery select)
  all_goals rfl

theorem array_ne_query {elements : Elements} (select : Select) :
    Operand.array elements ≠ .query select :=
  fun h => nomatch h

theorem Operand.renderElements_array {elements : Elements} :
    Operand.renderElements dialect (.array elements) =
      ((entriesOf elements.operands).mapM (Entry.render dialect)).map some := by
  rw [← Elements.render_eq]
  rfl

theorem Operand.renderElements_eq_ok {operand : Operand} {markups? : Option (List Markup)}
    (h : operand.renderElements dialect = .ok markups?) :
    (∃ elements markups, operand = .array elements ∧ markups? = some markups ∧
      (entriesOf elements.operands).mapM (Entry.render dialect) = .ok markups) ∨
      markups? = none := by
  cases operand with
  | array elements =>
      rw [renderElements_array] at h
      obtain ⟨markups, hmarkups, rfl⟩ := map_eq_ok.mp h
      exact Or.inl ⟨elements, markups, rfl, rfl, hmarkups⟩
  | _ => exact Or.inr (Except.ok.inj h).symm

theorem operands_of_mapM_eq_ok {operands : List Operand} {low high : Markup}
    (h : (entriesOf operands).mapM (Entry.render dialect) = .ok [low, high]) :
    ∃ first second, operands = [first, second] ∧ first.render dialect = .ok low ∧
      second.render dialect = .ok high := by
  rw [mapM_entriesOf, mapM_eq_ok_iff] at h
  obtain ⟨first, rest, rfl, hfirst, hrest⟩ := List.map_eq_cons_iff.mp h
  obtain ⟨second, others, rfl, hsecond, hothers⟩ := List.map_eq_cons_iff.mp hrest
  obtain rfl := List.map_eq_nil_iff.mp hothers
  exact ⟨first, second, rfl, hfirst, hsecond⟩

theorem mapM_pair {low high : Operand} {start stop : Markup}
    (hlow : low.render dialect = .ok start) (hhigh : high.render dialect = .ok stop) :
    (entriesOf [low, high]).mapM (Entry.render dialect) = .ok [start, stop] := by
  rw [mapM_entriesOf, mapM_eq_ok_iff]
  simp only [List.map_cons, List.map_nil, hlow, hhigh]

variable {markup : Markup}

/-- The left operand has a layout whenever it is written. -/
private abbrev LeftHasLayout (dialect : Dialect) (left : Operand) : Prop :=
  ∀ markup, left.render dialect = .ok markup → HasLayout dialect (.entry (.operand left)) markup

theorem hasLayout_range (hform : condition.form = .range) (hleft : LeftHasLayout dialect left)
    (h : Clause.render dialect ⟨condition, some left, some right⟩ = .ok markup) :
    HasLayout dialect (.clause ⟨condition, some left, some right⟩) markup := by
  rw [Clause.render_range hform] at h
  obtain ⟨subject, hsubject, h⟩ := bind_eq_ok.mp h
  obtain ⟨markups?, hmarkups, h⟩ := bind_eq_ok.mp h
  obtain ⟨layout, hreads, rfl⟩ := hleft subject hsubject
  rcases Operand.renderElements_eq_ok hmarkups with ⟨elements, markups, rfl, rfl, hmap⟩ | rfl
  · split at h
    case h_1 low high heq =>
      obtain rfl : markups = [low, high] := Option.some.inj heq
      -- elements are written one by one, so two texts come from two operands
      obtain ⟨first, second, hoperands, hfirst, hsecond⟩ := operands_of_mapM_eq_ok hmap
      have hmem : ∀ entry ∈ entriesOf elements.operands, ∀ markup,
          entry.render dialect = .ok markup → HasLayout dialect (.entry entry) markup :=
        elements.hasLayout
      rw [hoperands] at hmem
      obtain ⟨start, hstart, rfl⟩ := hmem (.operand first) (by simp [entriesOf]) low hfirst
      obtain ⟨stop, hstop, rfl⟩ := hmem (.operand second) (by simp [entriesOf]) high hsecond
      refine ⟨_, .range hform hoperands hreads hstart hstop, ?_⟩
      rw [← pure_eq_ok.mp h]
      simp
    case h_2 => cases h
    case h_3 => cases h
  · cases h

theorem hasLayout_member {whenEmpty : String} (hform : condition.form = .membership whenEmpty)
    (hleft : LeftHasLayout dialect left) (hquery : ∀ select, right ≠ .query select)
    (h : Clause.render dialect ⟨condition, some left, some right⟩ = .ok markup) :
    HasLayout dialect (.clause ⟨condition, some left, some right⟩) markup := by
  rw [Clause.render_member hform hquery] at h
  obtain ⟨subject, hsubject, h⟩ := bind_eq_ok.mp h
  obtain ⟨markups?, hmarkups, h⟩ := bind_eq_ok.mp h
  obtain ⟨layout, hreads, rfl⟩ := hleft subject hsubject
  rcases Operand.renderElements_eq_ok hmarkups with ⟨elements, markups, rfl, rfl, hmap⟩ | rfl
  · have hisEmpty := isEmpty_of_mapM_eq_ok hmap
    split at h
    case h_1 heq =>
      obtain rfl : markups = [] := Option.some.inj heq
      have hoperands : elements.operands = [] := by simpa [entriesOf] using hisEmpty
      refine ⟨_, .memberOfNothing hform hoperands hreads, ?_⟩
      rw [← pure_eq_ok.mp h]
      rfl
    case h_2 items hne heq =>
      obtain rfl : markups = items := Option.some.inj heq
      have hoperands : elements.operands ≠ [] := by
        intro hoperands
        exact hne (by simpa [hoperands, entriesOf] using hisEmpty)
      obtain ⟨items, hitems, hmarkup⟩ := HasLayout.entries elements.hasLayout hmap
      refine ⟨_, .memberOfList hform hoperands hreads hitems, ?_⟩
      rw [← pure_eq_ok.mp h, ← hmarkup]
      simp
    case h_3 => cases h
  · cases h

end Clauses

mutual

theorem Operand.hasLayout : ∀ (operand : Operand) {markup : Markup},
    operand.render dialect = .ok markup → HasLayout dialect (.entry (.operand operand)) markup
  | .clause clause, markup, h => by
      rw [Operand.render] at h
      exact .between (fun _ => clause.hasLayout) (fun _ => .nested) h
  | .value value, markup, h => by
      rw [Operand.render] at h
      exact Value.hasLayout h
  | .array elements, markup, h => by
      rw [Operand.render] at h
      exact ⟨[], .array, Except.ok.inj h⟩
  | .column column, markup, h => by
      rw [Operand.render] at h
      exact ⟨_, .column, Except.ok.inj h⟩
  | .expression expression, markup, h => by
      rw [Operand.render] at h
      exact ⟨_, .expression, Except.ok.inj h⟩
  | .parameter parameter, markup, h => by
      rw [Operand.render] at h
      exact Parameter.hasLayout h
  | .query select, markup, h => by
      rw [Operand.render] at h
      exact .between (fun _ => select.hasLayout) (fun _ => .query) h
  | .any select, markup, h => by
      rw [Operand.render] at h
      split at h
      case isTrue hallowed =>
        exact .between (fun _ => select.hasLayout) (fun _ => .any hallowed) h
      case isFalse => cases h
  | .all select, markup, h => by
      rw [Operand.render] at h
      exact .between (fun _ => select.hasLayout) (fun _ => .all) h

theorem Clause.hasLayout : ∀ (clause : Clause) {markup : Markup},
    clause.render dialect = .ok markup → HasLayout dialect (.clause clause) markup
  | ⟨condition, none, none⟩, markup, h => by
      -- an operator on its own is refused, whichever it is
      rw [Clause.render] at h
      split at h <;> cases h
  | ⟨condition, none, some right⟩, markup, h => by
      have hform : condition.form = .before := by
        rw [Clause.render] at h
        split at h
        case isTrue hbefore => exact Condition.form_of_standsBefore hbefore
        case isFalse => cases h
      rw [Clause.render_before hform] at h
      exact .behind (fun _ => right.hasLayout) (fun _ => .before hform) h
  | ⟨condition, some left, none⟩, markup, h => by
      have hform : condition.form = .after := by
        rw [Clause.render] at h
        split at h
        case isTrue hafter => exact Condition.form_of_standsAfter hafter
        case isFalse => cases h
      rw [Clause.render_after hform] at h
      obtain ⟨inner, hinner, h⟩ := bind_eq_ok.mp h
      obtain ⟨layout, hreads, rfl⟩ := left.hasLayout hinner
      refine ⟨_, .after hform hreads, ?_⟩
      rw [← pure_eq_ok.mp h]
      simp
  | ⟨condition, some left, some right⟩, markup, h => by
      cases hform : condition.form with
      | before =>
          rw [Clause.render, hform] at h
          cases h
      | after =>
          rw [Clause.render, hform] at h
          cases h
      | binary =>
          rw [Clause.render_binary hform] at h
          obtain ⟨subject, hsubject, h⟩ := bind_eq_ok.mp h
          obtain ⟨object, hobject, h⟩ := bind_eq_ok.mp h
          obtain ⟨first, hfirst, rfl⟩ := left.hasLayout hsubject
          obtain ⟨second, hsecond, rfl⟩ := right.hasLayout hobject
          refine ⟨_, .binary hform hfirst hsecond, ?_⟩
          rw [← pure_eq_ok.mp h]
          simp
      | range => exact hasLayout_range hform (fun _ => left.hasLayout) h
      | membership whenEmpty =>
          cases right with
          | query select =>
              rw [Clause.render_memberOfQuery hform] at h
              obtain ⟨subject, hsubject, h⟩ := bind_eq_ok.mp h
              obtain ⟨inner, hinner, h⟩ := bind_eq_ok.mp h
              obtain ⟨first, hfirst, rfl⟩ := left.hasLayout hsubject
              obtain ⟨second, hsecond, rfl⟩ := select.hasLayout hinner
              refine ⟨_, .memberOfQuery hform hfirst hsecond, ?_⟩
              rw [← pure_eq_ok.mp h]
              simp
          | _ =>
              exact hasLayout_member hform (fun _ => left.hasLayout)
                (fun _ hquery => nomatch hquery) h

theorem Select.hasLayout : ∀ (select : Select) {markup : Markup},
    select.render dialect = .ok markup → HasLayout dialect (.select select) markup
  | ⟨table, columns, distinct, groupBy, having?, slots⟩, markup, h => by
      rw [Select.render_eq] at h
      obtain ⟨_, hcheck, h⟩ := bind_eq_ok.mp h
      obtain ⟨head, hhead, h⟩ := bind_eq_ok.mp h
      obtain ⟨markups, hmarkups, h⟩ := bind_eq_ok.mp h
      obtain ⟨filter, hfilter, h⟩ := bind_eq_ok.mp h
      obtain ⟨having, hhaving, h⟩ := bind_eq_ok.mp h
      rw [renderOperands_eq] at hmarkups
      obtain ⟨head, headReads, rfl⟩ := slots.hasLayout_withTables hhead
      obtain ⟨items, hitems, hjoined⟩ := HasLayout.entries (hasLayout_operands columns) hmarkups
      obtain ⟨filter, filterReads, rfl⟩ := slots.hasLayout_filter hfilter
      obtain ⟨having, havingReads, rfl⟩ :
          HasLayout dialect (.condition " HAVING " having?) having := by
        cases having? with
        | none => exact ⟨[], .absent, Except.ok.inj hhaving⟩
        | some clause =>
            rw [Phrase.render] at hhaving
            exact .behind (fun _ => clause.hasLayout) (fun _ => .present) hhaving
      refine ⟨_, .select (Slots.check_eq_ok_iff.mp hcheck) headReads hitems filterReads
        havingReads, ?_⟩
      have hisEmpty : markups.isEmpty = columns.isEmpty := by
        simpa [entriesOf] using isEmpty_of_mapM_eq_ok hmarkups
      rw [← pure_eq_ok.mp h, hisEmpty, ← hjoined]
      cases columns.isEmpty <;> simp

theorem Slots.hasLayout_withTables : ∀ (slots : Slots) {markup : Markup},
    slots.renderWith dialect = .ok markup →
      HasLayout dialect (.withTables slots.withTables) markup
  | ⟨_, _, tables, _⟩, markup, h => by
      have htables := hasLayout_tables tables
      rw [Slots.renderWith_eq] at h
      cases tables with
      | nil => exact ⟨[], .withoutTables, Except.ok.inj h⟩
      | cons table rest =>
          obtain ⟨markups, hmarkups, h⟩ := bind_eq_ok.mp h
          obtain ⟨items, hitems, hjoined⟩ := HasLayout.entries htables hmarkups
          refine ⟨_, .withTables (List.cons_ne_nil _ _) hitems, ?_⟩
          rw [← pure_eq_ok.mp h, ← hjoined]
          simp

theorem Slots.hasLayout_filter : ∀ (slots : Slots) {markup : Markup},
    slots.renderFilter dialect = .ok markup →
      HasLayout dialect (.condition " WHERE " slots.filter?) markup
  | ⟨none, _, _, _⟩, markup, h => ⟨[], .absent, Except.ok.inj h⟩
  | ⟨some clause, _, _, _⟩, markup, h => by
      rw [Slots.renderFilter] at h
      exact .behind (fun _ => clause.hasLayout) (fun _ => .present) h

theorem WithTable.hasLayout : ∀ (table : WithTable) {markup : Markup},
    table.render dialect = .ok markup → HasLayout dialect (.entry (.table table)) markup
  | ⟨name, select⟩, markup, h => by
      rw [WithTable.render] at h
      exact .between (fun _ => select.hasLayout) (fun _ => .table) h

theorem hasLayout_operands : ∀ (operands : List Operand), ∀ entry ∈ entriesOf operands,
    ∀ markup, entry.render dialect = .ok markup → HasLayout dialect (.entry entry) markup
  | [], _, hentry, _, _ => nomatch hentry
  | operand :: rest, entry, hentry, markup, h => by
      rcases List.mem_cons.mp hentry with rfl | hentry
      · exact operand.hasLayout h
      · exact hasLayout_operands rest entry hentry markup h

theorem hasLayout_tables : ∀ (tables : List WithTable), ∀ entry ∈ tables.map Entry.table,
    ∀ markup, entry.render dialect = .ok markup → HasLayout dialect (.entry entry) markup
  | [], _, hentry, _, _ => nomatch hentry
  | table :: rest, entry, hentry, markup, h => by
      rcases List.mem_cons.mp hentry with rfl | hentry
      · exact table.hasLayout h
      · exact hasLayout_tables rest entry hentry markup h

end

theorem hasLayout_assignments (assignments : List (Column × Operand)) :
    ∀ entry ∈ assignments.map (fun given => Entry.assignment given.1 given.2),
      ∀ markup, entry.render dialect = .ok markup → HasLayout dialect (.entry entry) markup := by
  intro entry hentry markup h
  obtain ⟨given, -, rfl⟩ := List.mem_map.mp hentry
  exact .behind (fun _ => given.2.hasLayout) (fun _ => .assignment) h

section Statements

variable {markup : Markup}

theorem Insert.hasLayout (insert : Insert) (h : insert.render dialect = .ok markup) :
    HasLayout dialect (.statement (.insert insert)) markup := by
  rw [Insert.render] at h
  obtain ⟨_, hcheck, h⟩ := bind_eq_ok.mp h
  obtain ⟨markups, hmarkups, h⟩ := bind_eq_ok.mp h
  obtain ⟨head, hhead, h⟩ := bind_eq_ok.mp h
  rw [renderOperands_eq] at hmarkups
  obtain ⟨values, valuesRead, hjoined⟩ := HasLayout.entries (hasLayout_operands _) hmarkups
  obtain ⟨head, headReads, rfl⟩ := insert.slots.hasLayout_withTables hhead
  refine ⟨_, .insertStatement (Slots.check_eq_ok_iff.mp hcheck) headReads valuesRead, ?_⟩
  rw [← pure_eq_ok.mp h, ← hjoined]
  simp

theorem Update.hasLayout (update : Update) (h : update.render dialect = .ok markup) :
    HasLayout dialect (.statement (.update update)) markup := by
  rw [Update.render] at h
  obtain ⟨_, hcheck, h⟩ := bind_eq_ok.mp h
  obtain ⟨head, hhead, h⟩ := bind_eq_ok.mp h
  obtain ⟨markups, hmarkups, h⟩ := bind_eq_ok.mp h
  obtain ⟨filter, hfilter, h⟩ := bind_eq_ok.mp h
  obtain ⟨head, headReads, rfl⟩ := update.slots.hasLayout_withTables hhead
  obtain ⟨filter, filterReads, rfl⟩ := update.slots.hasLayout_filter hfilter
  rw [renderAssignments_eq] at hmarkups
  obtain ⟨assignments, assignmentsRead, hjoined⟩ :=
    HasLayout.entries (hasLayout_assignments _) hmarkups
  refine ⟨_, .updateStatement (Slots.check_eq_ok_iff.mp hcheck) headReads assignmentsRead
    filterReads, ?_⟩
  rw [← pure_eq_ok.mp h, ← hjoined]
  cases dialect.updateListsTables <;> simp

theorem Delete.hasLayout (delete : Delete) (h : delete.render dialect = .ok markup) :
    HasLayout dialect (.statement (.delete delete)) markup := by
  rw [Delete.render] at h
  obtain ⟨_, hcheck, h⟩ := bind_eq_ok.mp h
  obtain ⟨head, hhead, h⟩ := bind_eq_ok.mp h
  obtain ⟨filter, hfilter, h⟩ := bind_eq_ok.mp h
  obtain ⟨head, headReads, rfl⟩ := delete.slots.hasLayout_withTables hhead
  obtain ⟨filter, filterReads, rfl⟩ := delete.slots.hasLayout_filter hfilter
  refine ⟨_, .deleteStatement (Slots.check_eq_ok_iff.mp hcheck) headReads filterReads, ?_⟩
  rw [← pure_eq_ok.mp h]
  cases dialect.deleteListsTables <;> simp

theorem Raw.hasLayout (raw : Raw) (h : raw.render dialect = .ok markup) :
    HasLayout dialect (.statement (.raw raw)) markup := by
  rw [Raw.render] at h
  obtain ⟨_, hcheck, h⟩ := bind_eq_ok.mp h
  obtain ⟨head, hhead, h⟩ := bind_eq_ok.mp h
  obtain ⟨filter, hfilter, h⟩ := bind_eq_ok.mp h
  obtain ⟨head, headReads, rfl⟩ := raw.slots.hasLayout_withTables hhead
  obtain ⟨filter, filterReads, rfl⟩ := raw.slots.hasLayout_filter hfilter
  refine ⟨_, .rawStatement (Slots.check_eq_ok_iff.mp hcheck) headReads filterReads, ?_⟩
  rw [← pure_eq_ok.mp h]
  simp

theorem IndexStatement.hasLayout_creation (creation : IndexStatement)
    (h : creation.renderCreation dialect = .ok markup) :
    HasLayout dialect (.statement (.createIndex creation)) markup := by
  rw [IndexStatement.renderCreation] at h
  obtain ⟨_, hcheck, h⟩ := bind_eq_ok.mp h
  refine ⟨_, .createIndexStatement (Slots.check_eq_ok_iff.mp hcheck), ?_⟩
  rw [← pure_eq_ok.mp h]
  simp

theorem IndexStatement.hasLayout_removal (removal : IndexStatement)
    (h : removal.renderRemoval dialect = .ok markup) :
    HasLayout dialect (.statement (.dropIndex removal)) markup := by
  rw [IndexStatement.renderRemoval] at h
  obtain ⟨_, hcheck, h⟩ := bind_eq_ok.mp h
  refine ⟨_, .dropIndexStatement (Slots.check_eq_ok_iff.mp hcheck), ?_⟩
  rw [← pure_eq_ok.mp h]
  simp

/-- Every statement that is written has a layout. -/
theorem Statement.hasLayout (statement : Statement) (h : statement.render dialect = .ok markup) :
    HasLayout dialect (.statement statement) markup := by
  cases statement with
  | select select =>
      obtain ⟨layout, hreads, hmarkup⟩ := select.hasLayout h
      exact ⟨layout, .selectStatement hreads, hmarkup⟩
  | insert insert => exact insert.hasLayout h
  | update update => exact update.hasLayout h
  | delete delete => exact delete.hasLayout h
  | raw raw => exact raw.hasLayout h
  | createIndex creation => exact creation.hasLayout_creation h
  | dropIndex removal => exact removal.hasLayout_removal h

end Statements

/-! ## What has a layout is written -/

theorem Operand.renderElements_eq {elements : Elements} {markups : List Markup}
    (h : (entriesOf elements.operands).mapM (Entry.render dialect) = .ok markups) :
    Operand.renderElements dialect (.array elements) = .ok (some markups) := by
  rw [Operand.renderElements_array, h]
  rfl

/-- What a phrase reads as is what is written for it. -/
theorem Reads.render_eq {phrase : Phrase} {layout : Layout} (h : Reads dialect phrase layout) :
    phrase.render dialect = .ok (layout.markup dialect) := by
  -- the hypotheses are about phrases, and are opened to the function for what a phrase is
  induction h with
  | nested _ ih | query _ ih | all _ ih =>
      simp only [Phrase.render] at ih
      rw [Phrase.render, Entry.render, Operand.render, ih]
      simp [ok_bind, pure, Except.pure]
  | any hallowed _ ih =>
      simp only [Phrase.render] at ih
      rw [Phrase.render, Entry.render, Operand.render, if_pos hallowed, ih]
      simp [ok_bind, pure, Except.pure]
  | value hplain => exact Value.render_eq_ok_iff.mpr ⟨hplain, rfl⟩
  | array | column | expression => rfl
  | parameter husable => exact Parameter.render_eq_ok_iff.mpr ⟨husable, by simp⟩
  | assignment _ ih =>
      simp only [Phrase.render, Entry.render] at ih
      rw [Phrase.render, Entry.render, ih]
      simp [ok_bind, pure, Except.pure]
  | table _ ih =>
      simp only [Phrase.render] at ih
      rw [Phrase.render, Entry.render, WithTable.render, ih]
      simp [ok_bind, pure, Except.pure]
  | none => rfl
  | one _ ih =>
      simp only [Phrase.render] at ih
      rw [Phrase.render, List.mapM_cons, ih]
      rfl
  | more _ _ ihfirst ihrest =>
      simp only [Phrase.render] at ihfirst
      obtain ⟨markups, hmarkups, hjoined⟩ := bind_eq_ok.mp ihrest
      rw [Phrase.render, List.mapM_cons, ihfirst, ok_bind, hmarkups, ok_bind, pure_bind,
        joined_cons (isEmpty_of_mapM_eq_ok hmarkups), pure_eq_ok.mp hjoined]
      simp [pure, Except.pure]
  | before hform _ ih =>
      simp only [Phrase.render, Entry.render] at ih
      rw [Phrase.render, Clause.render_before hform, ih]
      simp [ok_bind, pure, Except.pure]
  | after hform _ ih =>
      simp only [Phrase.render, Entry.render] at ih
      rw [Phrase.render, Clause.render_after hform, ih]
      simp [ok_bind, pure, Except.pure]
  | binary hform _ _ ihleft ihright =>
      simp only [Phrase.render, Entry.render] at ihleft ihright
      rw [Phrase.render, Clause.render_binary hform, ihleft, ihright]
      simp [ok_bind, pure, Except.pure]
  | range hform hoperands _ _ _ ihleft ihlow ihhigh =>
      simp only [Phrase.render, Entry.render] at ihleft ihlow ihhigh
      rw [Phrase.render, Clause.render_range hform, ihleft, ok_bind,
        Operand.renderElements_eq (by rw [hoperands]; exact mapM_pair ihlow ihhigh), ok_bind]
      simp [pure, Except.pure]
  | memberOfQuery hform _ _ ihleft ihquery =>
      simp only [Phrase.render, Entry.render] at ihleft ihquery
      rw [Phrase.render, Clause.render_memberOfQuery hform, ihleft, ihquery]
      simp [ok_bind, pure, Except.pure]
  | memberOfNothing hform hoperands _ ihleft =>
      simp only [Phrase.render, Entry.render] at ihleft
      rw [Phrase.render, Clause.render_member hform array_ne_query, ihleft, ok_bind,
        Operand.renderElements_eq (by rw [hoperands]; rfl), ok_bind]
      rfl
  | memberOfList hform hoperands _ _ ihleft ihitems =>
      simp only [Phrase.render, Entry.render] at ihleft
      obtain ⟨markups, hmarkups, hjoined⟩ := bind_eq_ok.mp ihitems
      rw [Phrase.render, Clause.render_member hform array_ne_query, ihleft, ok_bind,
        Operand.renderElements_eq hmarkups, ok_bind]
      have hisEmpty := isEmpty_of_mapM_eq_ok hmarkups
      cases markups with
      | nil => exact absurd (by simpa [entriesOf] using hisEmpty) hoperands
      | cons first rest =>
          simp only [pure_eq_ok.mp hjoined]
          simp [pure, Except.pure]
  | absent | withoutTables => rfl
  | present _ ih =>
      simp only [Phrase.render] at ih
      rw [Phrase.render, ih]
      simp [ok_bind, pure, Except.pure]
  | @withTables tables items hne _ ih =>
      cases tables with
      | nil => exact absurd rfl hne
      | cons table rest =>
          obtain ⟨markups, hmarkups, hjoined⟩ := bind_eq_ok.mp ih
          rw [Phrase.render, hmarkups, ok_bind, pure_eq_ok.mp hjoined]
          · simp [pure, Except.pure]
          · exact fun h => nomatch h
  | @select table columns distinct groupBy having? slots _ _ _ _ hproblems _ _ _ _
      ihhead ihitems ihfilter ihhaving =>
      rw [← Slots.renderWith_eq] at ihhead
      rw [← Slots.renderFilter_eq] at ihfilter
      obtain ⟨markups, hmarkups, hjoined⟩ := bind_eq_ok.mp ihitems
      have hisEmpty : markups.isEmpty = columns.isEmpty := by
        simpa [entriesOf] using isEmpty_of_mapM_eq_ok hmarkups
      rw [Phrase.render, Select.render_eq, Slots.check_eq_ok_iff.mpr hproblems, ok_bind, ihhead,
        ok_bind, renderOperands_eq, hmarkups, ok_bind, ihfilter, ok_bind, ihhaving, ok_bind,
        hisEmpty, pure_eq_ok.mp hjoined]
      cases columns.isEmpty <;> simp [pure, Except.pure]
  | selectStatement _ ih => exact ih
  | insertStatement hproblems _ _ ihhead ihvalues =>
      rw [← Slots.renderWith_eq] at ihhead
      obtain ⟨markups, hmarkups, hjoined⟩ := bind_eq_ok.mp ihvalues
      rw [Phrase.render, Statement.render, Insert.render, Slots.check_eq_ok_iff.mpr hproblems,
        ok_bind, renderOperands_eq, hmarkups, ok_bind, ihhead, ok_bind, pure_eq_ok.mp hjoined]
      simp [pure, Except.pure]
  | updateStatement hproblems _ _ _ ihhead ihassignments ihfilter =>
      rw [← Slots.renderWith_eq] at ihhead
      rw [← Slots.renderFilter_eq] at ihfilter
      obtain ⟨markups, hmarkups, hjoined⟩ := bind_eq_ok.mp ihassignments
      rw [Phrase.render, Statement.render, Update.render, Slots.check_eq_ok_iff.mpr hproblems,
        ok_bind, ihhead, ok_bind, renderAssignments_eq, hmarkups, ok_bind, ihfilter, ok_bind,
        pure_eq_ok.mp hjoined]
      cases dialect.updateListsTables <;> simp [pure, Except.pure]
  | deleteStatement hproblems _ _ ihhead ihfilter =>
      rw [← Slots.renderWith_eq] at ihhead
      rw [← Slots.renderFilter_eq] at ihfilter
      rw [Phrase.render, Statement.render, Delete.render, Slots.check_eq_ok_iff.mpr hproblems,
        ok_bind, ihhead, ok_bind, ihfilter, ok_bind]
      cases dialect.deleteListsTables <;> simp [pure, Except.pure]
  | rawStatement hproblems _ _ ihhead ihfilter =>
      rw [← Slots.renderWith_eq] at ihhead
      rw [← Slots.renderFilter_eq] at ihfilter
      rw [Phrase.render, Statement.render, Raw.render, Slots.check_eq_ok_iff.mpr hproblems,
        ok_bind, ihhead, ok_bind, ihfilter, ok_bind]
      simp [pure, Except.pure]
  | createIndexStatement hproblems =>
      rw [Phrase.render, Statement.render, IndexStatement.renderCreation,
        Slots.check_eq_ok_iff.mpr hproblems, ok_bind]
      simp [pure, Except.pure]
  | dropIndexStatement hproblems =>
      rw [Phrase.render, Statement.render, IndexStatement.renderRemoval,
        Slots.check_eq_ok_iff.mpr hproblems, ok_bind]
      simp [pure, Except.pure]

/-- Statements are written exactly as they read. -/
theorem Statement.render_eq_ok_iff {statement : Statement} {markup : Markup} :
    statement.render dialect = .ok markup ↔
      ∃ layout, Reads dialect (.statement statement) layout ∧ layout.markup dialect = markup := by
  constructor
  · exact statement.hasLayout
  · rintro ⟨layout, hreads, rfl⟩
    exact hreads.render_eq

end SqlText
