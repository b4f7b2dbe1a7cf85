import SqlText.Proofs.Placeholder.Counting
import SqlText.Proofs.Statement.Delimited

/-!
# Names that look like placeholders

Building looks for the marks of unnamed places in the finished text.  Strings and names of
parameters are checked for reserved characters, but names of tables, columns, indexes and
named queries are written as they are, and so are given texts.  A name that holds the mark
gets a placeholder like any parameter, and the numbers of those behind it are shifted.

How many marks are found is known exactly: one for each unnamed parameter, and those in the
names and given texts that appear in the text (`Statement.outside`).  No mark comes about
otherwise.  The delimiters that keep parameters apart from what is around them also keep
names apart (`Layout.Delimited.countSlots_encode`), so a part of a mark in one name is not
completed by what stands next to it.  What a delimited layout leaves to be shown is that its
fixed texts have the marks of the names in them (`Reads.marksOf`), which is one step of
`Layout.MarksOf` for each rule.
-/

namespace SqlText

open Layout (fixed)

/-! ## Names and given texts in a text -/

/-- The names in the text of an expression. -/
def ColumnExpression.outside : ColumnExpression → List String
  | now | countAll => []
  | upper column | lower column | cast column _ | count column => [column.name]
  | qualified column => [column.table, column.name]

/-- The names of columns. -/
def namesOf (columns : List Column) : List String :=
  columns.map Column.name

mutual

/-- The names and given texts in the text of an operand. -/
@[simp] def Operand.outside : Operand → List String
  | .clause clause => clause.outside
  | .column column => [column.name]
  | .expression expression => expression.outside
  | .query select | .any select | .all select => select.outside
  | .value _ | .array _ | .parameter _ => []

/-- The names and given texts in the text of a condition. -/
def Clause.outside : Clause → List String
  | ⟨condition, left?, some (.array elements)⟩ =>
      match condition.form with
      | .membership _ => if elements.operands.isEmpty then [] else outsideOfOperand? left?
      | _ => outsideOfOperand? left?
  | ⟨_, left?, right?⟩ => outsideOfOperand? left? ++ outsideOfOperand? right?

/-- The names and given texts in the text of a query. -/
def Select.outside : Select → List String
  | ⟨table, columns, _, groupBy, having?, ⟨filter?, suffix?, tables, _⟩⟩ =>
      outsideOfTables tables ++ outsideOfOperands columns ++ [table.name] ++
        outsideOfClause? filter? ++ namesOf groupBy ++ outsideOfClause? having? ++
        suffix?.toList

/-- The names and given texts in the text of a named query. -/
@[simp] def WithTable.outside : WithTable → List String
  | ⟨name, select⟩ => name :: select.outside

/-- The names and given texts in the text of an operand that may be missing. -/
@[simp] def outsideOfOperand? : Option Operand → List String
  | none => []
  | some operand => operand.outside

/-- The names and given texts in the text of a condition that may be missing. -/
@[simp] def outsideOfClause? : Option Clause → List String
  | none => []
  | some clause => clause.outside

/-- The names and given texts in the texts of operands. -/
def outsideOfOperands : List Operand → List String
  | [] => []
  | operand :: rest => operand.outside ++ outsideOfOperands rest

/-- The names and given texts in the texts of named queries. -/
def outsideOfTables : List WithTable → List String
  | [] => []
  | table :: rest => table.outside ++ outsideOfTables rest

end

/-- The names of the tables of the `WITH` clause, where they are listed. -/
def Slots.listed (slots : Slots) (lists : Bool) : List String :=
  if lists then slots.withTables.map WithTable.name else []

/-- The names and given texts in the text of a statement, in the order of the text. -/
@[simp] def Statement.outside (dialect : Dialect) : Statement → List String
  | select given => given.outside
  | insert given =>
      outsideOfTables given.slots.withTables ++ [given.table.name] ++
        namesOf (given.values.map Prod.fst) ++ outsideOfOperands (given.values.map Prod.snd) ++
        given.slots.suffix?.toList
  | update given =>
      outsideOfTables given.slots.withTables ++ [given.table.name] ++
        (given.assignments.flatMap fun entry => entry.1.name :: entry.2.outside) ++
        given.slots.listed dialect.updateListsTables ++ outsideOfClause? given.slots.filter? ++
        given.slots.suffix?.toList
  | delete given =>
      outsideOfTables given.slots.withTables ++ [given.table.name] ++
        given.slots.listed dialect.deleteListsTables ++ outsideOfClause? given.slots.filter? ++
        given.slots.suffix?.toList
  | raw given =>
      outsideOfTables given.slots.withTables ++ [given.sql] ++
        outsideOfClause? given.slots.filter? ++ given.slots.suffix?.toList
  | createIndex given =>
      [given.index.name, given.index.table.name] ++ namesOf given.index.columns ++
        given.slots.suffix?.toList
  | dropIndex given =>
      given.index.name :: (if dialect.dropIndexNamesTable then [given.index.table.name] else []) ++
        given.slots.suffix?.toList

/-- The names and given texts in the text of an entry. -/
@[simp] def Entry.outside : Entry → List String
  | operand given => given.outside
  | assignment column value => column.name :: value.outside
  | table given => given.outside

/-- The names and given texts in the text of a phrase, and its keyword. -/
@[simp] def Phrase.outside (dialect : Dialect) : Phrase → List String
  | entry given => given.outside
  | entries given => given.flatMap Entry.outside
  | clause given => given.outside
  | condition _ none => []
  | condition keyword (some given) => keyword :: given.outside
  | withTables tables => outsideOfTables tables
  | select given => given.outside
  | statement given => given.outside dialect

@[simp] theorem outsideOfOperands_eq (operands : List Operand) :
    outsideOfOperands operands = (entriesOf operands).flatMap Entry.outside := by
  induction operands with
  | nil => rfl
  | cons operand rest ih => simp [outsideOfOperands, entriesOf, ih]

@[simp] theorem outsideOfTables_eq (tables : List WithTable) :
    outsideOfTables tables = (tables.map Entry.table).flatMap Entry.outside := by
  induction tables with
  | nil => rfl
  | cons table rest ih => simp [outsideOfTables, ih]

/-- The elements of an array hold no names. -/
@[simp] theorem Elements.flatMap_outside (elements : Elements) :
    (entriesOf elements.operands).flatMap Entry.outside = [] := by
  refine List.flatMap_eq_nil_iff.mpr fun entry hentry => ?_
  obtain ⟨operand, hoperand, rfl⟩ := List.mem_map.mp hentry
  cases elements <;> obtain ⟨item, -, rfl⟩ := List.mem_map.mp hoperand <;> rfl

theorem Elements.outside_pair {elements : Elements} {low high : Operand}
    (h : elements.operands = [low, high]) : low.outside ++ high.outside = [] := by
  have helements := elements.flatMap_outside
  rw [h] at helements
  rwa [entriesOf, List.map_cons, List.map_cons, List.map_nil, List.flatMap_cons,
    List.flatMap_cons, List.flatMap_nil, List.append_nil] at helements

/-- An array has no names in its text. -/
theorem Clause.outside_of_form {condition : Condition} {left? : Option Operand} {right : Operand}
    (h : condition.form = .before ∨ condition.form = .binary) :
    Clause.outside ⟨condition, left?, some right⟩ = outsideOfOperand? left? ++ right.outside := by
  cases right with
  | array elements => rcases h with h | h <;> simp [Clause.outside, h]
  | _ => rfl

theorem Select.outside_eq (select : Select) :
    select.outside = outsideOfTables select.slots.withTables ++ outsideOfOperands select.columns ++
      [select.table.name] ++ outsideOfClause? select.slots.filter? ++ namesOf select.groupBy ++
      outsideOfClause? select.having? ++ select.slots.suffix?.toList := by
  obtain ⟨_, _, _, _, _, _, _, _, _⟩ := select
  rfl

/-! ## Marks in what a dialect writes -/

namespace Dialect.Plain

variable {dialect : Dialect} (h : dialect.Plain)
include h

theorem countSlots_identifier (name : String) :
    countSlots (dialect.identifier name) = countSlots name := by
  have hquote : Text.Plain (dialect.text .identifierQuote) := h.text _
  simp only [Dialect.identifier]
  split
  · rfl
  · split
    · rfl
    · rw [countSlots_append_plain hquote, countSlots_plain_append hquote]

theorem marksIn_identifiers (names : List String) :
    marksIn (names.map dialect.identifier) = marksIn names := by
  induction names with
  | nil => rfl
  | cons name rest ih => rw [List.map_cons, marksIn, marksIn, h.countSlots_identifier, ih]

theorem countSlots_listText (columns : List Column) :
    countSlots (Column.listText columns dialect) = marksIn (namesOf columns) := by
  have htexts : columns.map (fun column => column.text dialect) =
      (namesOf columns).map dialect.identifier := by
    rw [namesOf, List.map_map]
    rfl
  rw [Column.listText, countSlots_intercalate (by decide) (by decide), htexts,
    h.marksIn_identifiers]

theorem countSlots_expressionText (expression : ColumnExpression) :
    countSlots (expression.text dialect) = marksIn expression.outside := by
  have hopen : Text.Plain "(" := by decide
  have hclose : Text.Plain ")" := by decide
  cases expression with
  | now => exact countSlots_of_plain (h.text _)
  | upper column | lower column =>
      rw [ColumnExpression.text, countSlots_append_plain hclose,
        countSlots_plain_append (Text.plain_append.mpr ⟨h.text _, hopen⟩)]
      exact h.countSlots_identifier column.name
  | cast column type =>
      rw [ColumnExpression.text, ColumnType.text, countSlots_append_plain hclose,
        countSlots_append_plain (h.text _), countSlots_append_plain (by decide),
        countSlots_plain_append (by decide)]
      exact h.countSlots_identifier column.name
  | qualified column =>
      rw [ColumnExpression.text, Column.qualifiedText,
        countSlots_separated (by decide) (by decide), h.countSlots_identifier,
        h.countSlots_identifier]
      rfl
  | count column =>
      rw [ColumnExpression.text, countSlots_append_plain hclose,
        countSlots_plain_append (by decide)]
      exact h.countSlots_identifier column.name
  | countAll =>
      show countSlots "COUNT(*)" = 0
      exact countSlots_of_plain (by decide)

end Dialect.Plain

/-! ## Marks in a delimited layout -/

theorem Text.isReserved_of_isStart {c : Char} (h : isStart c = true) : isReserved c = false := by
  simp only [isStart, Bool.or_eq_true, beq_iff_eq] at h
  rcases h with rfl | rfl <;> decide

theorem Text.isReserved_of_isStop {c : Char} (h : isStop c = true) : isReserved c = false := by
  simp only [isStop, Bool.or_eq_true, beq_iff_eq] at h
  rcases h with (rfl | rfl) | rfl <;> decide

/-- No mark stands at the seam of two texts if the first one can be followed by a
parameter. -/
theorem Text.Opens.countSlots_append {front : String} (h : Opens front.toList) (back : String) :
    countSlots (front ++ back) = countSlots front + countSlots back := by
  obtain ⟨c, hc, hstart⟩ := (Option.any_eq_true _ _).mp h
  exact countSlots_append_of_last hc (isReserved_of_isStart hstart)

/-- No mark stands at the seam of two texts if the second one can follow a parameter. -/
theorem Text.Closes.countSlots_append {back : String} (h : Closes back.toList) (front : String) :
    countSlots (front ++ back) = countSlots front + countSlots back :=
  SqlText.countSlots_append fun c hc => isReserved_of_isStop (h.stops c hc)

variable {dialect : Dialect} {phrase : Phrase} {layout : Layout}

namespace Layout

variable {fragment : Fragment} {rest : Layout}

theorem encode_markup_fixed (text : String) :
    (Fragment.markup dialect (.fixed text)).encode = text := by
  simp [Fragment.markup, Markup.text, Piece.encode]

theorem countSlots_fragment (hdialect : dialect.Plain)
    (husable : ∀ parameter ∈ parameters [fragment], parameter.Usable) :
    countSlots (fragment.markup dialect).encode =
      unnamed [fragment] + marksIn (texts [fragment]) := by
  cases fragment with
  | fixed text =>
      rw [encode_markup_fixed]
      simp [unnamed]
  | parameter parameter =>
      have hplain := (husable parameter (by simp)).plain_markup hdialect
      rw [Fragment.markup, countSlots_encode hplain, ← countP_markup_fragment]
      rfl

/-- No mark stands at the seam of neighbours that fit. -/
theorem countSlots_cons (h : Delimited (fragment :: rest)) :
    countSlots (markup dialect (fragment :: rest)).encode =
      countSlots (fragment.markup dialect).encode + countSlots (markup dialect rest).encode := by
  rw [markup_cons, Markup.encode_append]
  cases rest with
  | nil => exact countSlots_append fun c hc => nomatch hc
  | cons next more =>
      rcases (List.isChain_cons_cons.mp h).1 with hopens | hcloses
      · cases fragment with
        | parameter parameter => exact absurd hopens id
        | fixed text =>
            rw [encode_markup_fixed]
            exact Text.Opens.countSlots_append hopens _
      · cases next with
        | parameter parameter => exact absurd hcloses id
        | fixed text =>
            have hback : Text.Closes (markup dialect (.fixed text :: more)).encode.toList := by
              rw [markup_cons, Markup.encode_append, encode_markup_fixed]
              exact Text.closes_append hcloses _
            exact hback.countSlots_append _

/-- In the encoding of a delimited layout there is a mark for each unnamed parameter, and
there are those of its fixed texts. -/
theorem Delimited.countSlots_encode (hdialect : dialect.Plain) (h : layout.Delimited)
    (husable : ∀ parameter ∈ layout.parameters, parameter.Usable) :
    countSlots (layout.markup dialect).encode = layout.unnamed + marksIn layout.texts := by
  induction layout with
  | nil => rfl
  | cons fragment rest ih =>
      have hparameters : parameters (fragment :: rest) = parameters [fragment] ++ parameters rest :=
        parameters_append [fragment] rest
      have hunnamed : unnamed (fragment :: rest) = unnamed [fragment] + unnamed rest :=
        unnamed_append [fragment] rest
      have htexts : texts (fragment :: rest) = texts [fragment] ++ texts rest :=
        texts_append [fragment] rest
      rw [hparameters] at husable
      have hfragment := countSlots_fragment hdialect fun parameter hmem =>
        husable parameter (List.mem_append_left _ hmem)
      have hrest := ih h.tail fun parameter hmem =>
        husable parameter (List.mem_append_right _ hmem)
      rw [countSlots_cons h, hfragment, hrest, hunnamed, htexts, marksIn_append]
      omega

end Layout

/-! ## Texts with several names -/

theorem countSlots_insertText (hdialect : dialect.Plain) (table : Table) (columns : List Column) :
    countSlots ("INSERT INTO " ++ table.text dialect ++ " (" ++ Column.listText columns dialect ++
        ") VALUES (") =
      countSlots table.name + marksIn (namesOf columns) := by
  have hinsert : Text.Plain "INSERT INTO " := by decide
  have hopen : Text.Plain " (" := by decide
  have hvalues : Text.Plain ") VALUES (" := by decide
  rw [countSlots_append_plain hvalues, countSlots_separated hopen (by decide),
    countSlots_plain_append hinsert, Table.text, hdialect.countSlots_identifier,
    hdialect.countSlots_listText]

theorem countSlots_creationText (hdialect : dialect.Plain) (index : Index) :
    countSlots ("CREATE " ++ (if index.unique then "UNIQUE " else "") ++ "INDEX " ++
        dialect.identifier index.name ++ " ON " ++ index.table.text dialect ++ " (" ++
        Column.listText index.columns dialect ++ ")") =
      countSlots index.name + countSlots index.table.name + marksIn (namesOf index.columns) := by
  have hon : Text.Plain " ON " := by decide
  have hopen : Text.Plain " (" := by decide
  have hstart := plain_creationStart index.unique
  rw [countSlots_append_plain (by decide), countSlots_separated hopen (by decide),
    countSlots_separated hon (by decide), countSlots_plain_append hstart, Table.text,
    hdialect.countSlots_identifier, hdialect.countSlots_identifier, hdialect.countSlots_listText]

theorem countSlots_removalText (hdialect : dialect.Plain) (index : Index) :
    countSlots ("DROP INDEX " ++ dialect.identifier index.name ++
        (" ON " ++ index.table.text dialect)) =
      countSlots index.name + countSlots index.table.name := by
  have hon : Text.Plain " ON " := by decide
  have hdrop : Text.Plain "DROP INDEX " := by decide
  rw [← String.append_assoc, countSlots_separated hon (by decide), countSlots_plain_append hdrop,
    Table.text, hdialect.countSlots_identifier, hdialect.countSlots_identifier]

/-! ## Layouts with the marks of names -/

/-- The fixed texts of a layout have as many marks as some names. -/
def Layout.MarksOf (layout : Layout) (names : List String) : Prop :=
  marksIn layout.texts = marksIn names

namespace Layout

variable {first second : Layout} {names others : List String} {text front back : String}

theorem marksOf_fixed (h : countSlots text = marksIn names) : (fixed text).MarksOf names :=
  h

theorem marksOf_fixed_self (text : String) : (fixed text).MarksOf [text] :=
  rfl

theorem marksOf_fixed_plain (h : Text.Plain text) : (fixed text).MarksOf [] :=
  marksOf_fixed (countSlots_of_plain h)

/-- A name in plain text is alone in having marks. -/
theorem marksOf_fixed_around (hdialect : dialect.Plain) (hfront : Text.Plain front)
    (hback : Text.Plain back) (name : String) :
    (fixed (front ++ dialect.identifier name ++ back)).MarksOf [name] := by
  refine marksOf_fixed ?_
  rw [countSlots_append_plain hback, countSlots_plain_append hfront, hdialect.countSlots_identifier]
  rfl

theorem marksOf_fixed_after (hdialect : dialect.Plain) (hfront : Text.Plain front)
    (name : String) : (fixed (front ++ dialect.identifier name)).MarksOf [name] := by
  refine marksOf_fixed ?_
  rw [countSlots_plain_append hfront, hdialect.countSlots_identifier]
  rfl

theorem marksOf_fixed_before (hdialect : dialect.Plain) (hback : Text.Plain back)
    (name : String) : (fixed (dialect.identifier name ++ back)).MarksOf [name] := by
  refine marksOf_fixed ?_
  rw [countSlots_append_plain hback, hdialect.countSlots_identifier]
  rfl

namespace MarksOf

theorem append (hfirst : first.MarksOf names) (hsecond : second.MarksOf others) :
    (first ++ second : Layout).MarksOf (names ++ others) := by
  rw [MarksOf, texts_append, marksIn_append, marksIn_append, hfirst, hsecond]

theorem behind (h : layout.MarksOf names) (hfront : Text.Plain front) :
    (fixed front ++ layout : Layout).MarksOf names :=
  (marksOf_fixed_plain hfront).append h

theorem followed (h : layout.MarksOf names) (hback : Text.Plain back) :
    (layout ++ fixed back : Layout).MarksOf names := by
  have happend := h.append (marksOf_fixed_plain hback)
  rwa [List.append_nil] at happend

theorem between (h : layout.MarksOf names) (hfront : Text.Plain front)
    (hback : Text.Plain back) :
    (fixed front ++ layout ++ fixed back : Layout).MarksOf names :=
  (h.behind hfront).followed hback

/-- The keyword of a condition has no marks. -/
theorem condition {keyword : String} {clause? : Option Clause}
    (h : layout.MarksOf (Phrase.outside dialect (.condition keyword clause?)))
    (hkeyword : Text.Plain keyword) : layout.MarksOf (outsideOfClause? clause?) := by
  cases clause? with
  | none => exact h
  | some clause =>
      rw [MarksOf, Phrase.outside, marksIn, countSlots_of_plain hkeyword, Nat.zero_add] at h
      exact h

theorem tables {tables : List WithTable}
    (h : layout.MarksOf (Phrase.outside dialect (.entries (tables.map .table)))) :
    layout.MarksOf (outsideOfTables tables) := by
  rw [outsideOfTables_eq]
  exact h

theorem operands {operands : List Operand}
    (h : layout.MarksOf (Phrase.outside dialect (.entries (entriesOf operands)))) :
    layout.MarksOf (outsideOfOperands operands) := by
  rw [outsideOfOperands_eq]
  exact h

end MarksOf

theorem marksOf_suffixLayout (slots : Slots) : slots.suffixLayout.MarksOf slots.suffix?.toList := by
  have hspace : Text.Plain " " := by decide
  unfold Slots.suffixLayout
  cases slots.suffix? with
  | none => rfl
  | some suffix =>
      refine marksOf_fixed ?_
      rw [countSlots_plain_append hspace]
      rfl

theorem marksOf_namesLayout (hdialect : dialect.Plain) (slots : Slots) (lists : Bool)
    {keyword : String} (hkeyword : Text.Plain (" " ++ keyword ++ " ")) :
    MarksOf (if lists then slots.namesLayout dialect keyword else []) (slots.listed lists) := by
  have htexts : slots.withTables.map (fun table => dialect.identifier table.name) =
      (slots.withTables.map WithTable.name).map dialect.identifier := by
    rw [List.map_map]
    rfl
  unfold Slots.listed Slots.namesLayout
  cases lists with
  | false => rfl
  | true =>
      simp only [if_true]
      split
      case h_1 htables => rw [htables]; rfl
      case h_2 =>
        refine marksOf_fixed ?_
        rw [countSlots_plain_append hkeyword, countSlots_intercalate (by decide) (by decide),
          htexts, hdialect.marksIn_identifiers]

theorem marksOf_groupingLayout (hdialect : dialect.Plain) (columns : List Column) :
    (groupingLayout dialect columns).MarksOf (namesOf columns) := by
  have hkeyword : Text.Plain " GROUP BY " := by decide
  cases columns with
  | nil => rfl
  | cons column rest =>
      refine marksOf_fixed ?_
      rw [countSlots_plain_append hkeyword, hdialect.countSlots_listText]

end Layout

/-- The fixed texts of a layout have the marks of the names and given texts in them. -/
theorem Reads.marksOf (hdialect : dialect.Plain) (h : Reads dialect phrase layout) :
    layout.MarksOf (phrase.outside dialect) := by
  have hspace : Text.Plain " " := by decide
  have hopen : Text.Plain "(" := by decide
  have hclose : Text.Plain ")" := by decide
  have hquery : Text.Plain " (" := by decide
  have hcomma : Text.Plain ", " := by decide
  have hwhere : Text.Plain " WHERE " := by decide
  -- what a rule itself writes is plain, and only the names in its texts are left to count
  induction h with
  | array | parameter | none | absent | withoutTables => rfl
  | value hvalue => exact Layout.marksOf_fixed_plain (hdialect.literal hvalue)
  | column => exact Layout.marksOf_fixed (hdialect.countSlots_identifier _)
  | expression => exact Layout.marksOf_fixed (hdialect.countSlots_expressionText _)
  | nested _ ih | query _ ih => exact ih.between hopen hclose
  | any _ _ ih | all _ ih => exact ih.between ((hdialect.text _).append hquery) hclose
  | assignment _ ih =>
      exact (Layout.marksOf_fixed_before hdialect (by decide) _).append ih
  | table _ ih =>
      exact ((Layout.marksOf_fixed_before hdialect (by decide) _).append ih).followed hclose
  | one _ ih =>
      rw [Phrase.outside, List.flatMap_singleton]
      exact ih
  | more _ _ ih ihrest => exact (ih.followed hcomma).append ihrest
  | @before condition _ _ hform _ ih =>
      rw [Phrase.outside, Clause.outside_of_form (Or.inl hform)]
      exact ih.behind (condition.plain_text.append hspace)
  | @after condition left _ _ _ ih =>
      have hclause : Clause.outside ⟨condition, some left, .none⟩ = left.outside := by
        simp [Clause.outside]
      rw [Phrase.outside, hclause]
      exact ih.followed (hspace.append condition.plain_text)
  | @binary condition _ _ _ _ hform _ _ ihleft ihright =>
      rw [Phrase.outside, Clause.outside_of_form (Or.inr hform)]
      exact (ihleft.followed (condition.plain_around hspace hspace)).append ihright
  | @range condition left elements low high _ _ _ hform hoperands _ _ _ ihleft ihlow ihhigh =>
      have hclause : Clause.outside ⟨condition, some left, some (.array elements)⟩ =
          left.outside ++ low.outside ++ high.outside := by
        rw [Clause.outside, hform, List.append_assoc, Elements.outside_pair hoperands,
          List.append_nil]
        rfl
      have hstart := ihleft.followed (condition.plain_around hspace hspace)
      rw [Phrase.outside, hclause]
      exact ((hstart.append ihlow).followed (by decide)).append ihhigh
  | @memberOfQuery condition _ _ _ _ _ _ _ _ ihleft ihquery =>
      have hstart := ihleft.followed (condition.plain_around hspace hquery)
      exact (hstart.append ihquery).followed hclose
  | memberOfNothing hform hoperands =>
      rw [Phrase.outside, Clause.outside, hform, hoperands]
      exact Layout.marksOf_fixed_plain (Condition.plain_of_form hform)
  | @memberOfList condition _ left elements _ _ hform hoperands _ _ ihleft ihitems =>
      have hclause : Clause.outside ⟨condition, some left, some (.array elements)⟩ =
          left.outside := by
        rw [Clause.outside, hform]
        exact if_neg (by simpa using hoperands)
      have hstart := ihleft.followed (condition.plain_around hspace hquery)
      rw [Phrase.outside, elements.flatMap_outside] at ihitems
      have hlist := (hstart.append ihitems).followed hclose
      rw [Phrase.outside, hclause]
      rwa [List.append_nil] at hlist
  | present _ ih =>
      exact (Layout.marksOf_fixed_self _).append ih
  | withTables _ _ ih => exact ih.tables.between (by decide) hspace
  | @select table columns distinct groupBy having? slots _ items _ _ _ _ _ _ _ ihhead ihitems
      ihfilter ihhaving =>
      have hitems : Layout.MarksOf (if columns.isEmpty then fixed "*" else items)
          (outsideOfOperands columns) := by
        cases columns with
        | nil => exact Layout.marksOf_fixed_plain (by decide)
        | cons column rest => exact ihitems.operands
      have hkeyword : Text.Plain " FROM " := by decide
      have hfrom := Layout.marksOf_fixed_after hdialect hkeyword table.name
      have hlisted := (ihhead.followed (plain_selectStart distinct)).append hitems
      have hfiltered := (hlisted.append hfrom).append (ihfilter.condition hwhere)
      have hgrouped := (hfiltered.append (Layout.marksOf_groupingLayout hdialect groupBy)).append
        (ihhaving.condition (by decide))
      rw [Phrase.outside, Select.outside_eq]
      exact hgrouped.append (Layout.marksOf_suffixLayout slots)
  | selectStatement _ ih => exact ih
  | @insertStatement insert _ _ _ _ _ ihhead ihvalues =>
      have hinto : Layout.MarksOf (fixed ("INSERT INTO " ++ insert.table.text dialect ++ " (" ++
          Column.listText (insert.values.map Prod.fst) dialect ++ ") VALUES ("))
          ([insert.table.name] ++ namesOf (insert.values.map Prod.fst)) := by
        refine Layout.marksOf_fixed ?_
        rw [countSlots_insertText hdialect]
        rfl
      have hvalues := ((ihhead.append hinto).append ihvalues.operands).followed hclose
      rw [Phrase.outside, Statement.outside, List.append_assoc (outsideOfTables _)]
      exact hvalues.append (Layout.marksOf_suffixLayout insert.slots)
  | @updateStatement update _ _ _ _ _ _ _ ihhead ihassignments ihfilter =>
      have hupdate : Text.Plain "UPDATE " := by decide
      have hset : Text.Plain " SET " := by decide
      have htable := Layout.marksOf_fixed_around hdialect hupdate hset update.table.name
      have hfrom : Text.Plain (" " ++ "FROM" ++ " ") := by decide
      rw [Phrase.outside, List.flatMap_map] at ihassignments
      have hlisted := ((ihhead.append htable).append ihassignments).append
        (Layout.marksOf_namesLayout hdialect update.slots dialect.updateListsTables hfrom)
      exact (hlisted.append (ihfilter.condition hwhere)).append
        (Layout.marksOf_suffixLayout update.slots)
  | @deleteStatement delete _ _ _ _ _ ihhead ihfilter =>
      have husing : Text.Plain (" " ++ "USING" ++ " ") := by decide
      have hdelete : Text.Plain "DELETE FROM " := by decide
      have htable := Layout.marksOf_fixed_after hdialect hdelete delete.table.name
      have hlisted := (ihhead.append htable).append
        (Layout.marksOf_namesLayout hdialect delete.slots dialect.deleteListsTables husing)
      exact (hlisted.append (ihfilter.condition hwhere)).append
        (Layout.marksOf_suffixLayout delete.slots)
  | @rawStatement raw _ _ _ _ _ ihhead ihfilter =>
      have hsql := ihhead.append (Layout.marksOf_fixed_self raw.sql)
      exact (hsql.append (ihfilter.condition hwhere)).append
        (Layout.marksOf_suffixLayout raw.slots)
  | @createIndexStatement creation =>
      refine Layout.MarksOf.append (Layout.marksOf_fixed ?_)
        (Layout.marksOf_suffixLayout creation.slots)
      rw [countSlots_creationText hdialect, Nat.add_assoc]
      rfl
  | @dropIndexStatement removal =>
      have hdrop : Text.Plain "DROP INDEX " := by decide
      refine Layout.MarksOf.append (Layout.marksOf_fixed ?_)
        (Layout.marksOf_suffixLayout removal.slots)
      cases dialect.dropIndexNamesTable with
      | false =>
          rw [if_neg Bool.false_ne_true, String.append_empty, countSlots_plain_append hdrop,
            hdialect.countSlots_identifier]
          rfl
      | true => exact countSlots_removalText hdialect removal.index

/-! ## Statements -/

namespace Statement

variable {statement : Statement} {sql : String}

/-- Building finds one mark for each unnamed parameter, and the marks in the names and given
texts that appear in the text.  So it finds as many as there are parameters exactly if none of
these names and texts holds a mark. -/
theorem marks_eq_unnamed_iff (hdialect : dialect.Plain) (h : statement.build dialect = .ok sql) :
    ∃ markup, statement.render dialect = .ok markup ∧ sql = numberSlots dialect markup.encode ∧
      countSlots markup.encode =
        statement.written.countP (fun parameter => parameter.name?.isNone) +
          marksIn (statement.outside dialect) ∧
      (countSlots markup.encode =
          statement.written.countP (fun parameter => parameter.name?.isNone) ↔
        ∀ text ∈ statement.outside dialect, ¬ slotMark.toList <:+: text.toList) := by
  rw [build_eq] at h
  obtain ⟨markup, hrender, h⟩ := bind_eq_ok.mp h
  have hsql : sql = numberSlots dialect markup.encode := by
    split at h
    case isTrue => cases h
    case isFalse => exact (Except.ok.inj h).symm
  obtain ⟨layout, hreads, rfl⟩ := render_eq_ok_iff.mp hrender
  have hdelimited : layout.Delimited := hreads.delimited trivial
  have husable : ∀ parameter ∈ layout.parameters, parameter.Usable :=
    fun parameter hparameter => (hreads.from_leaves parameter hparameter).1
  have hcount : countSlots (layout.markup dialect).encode =
      statement.written.countP (fun parameter => parameter.name?.isNone) +
        marksIn (statement.outside dialect) := by
    rw [hdelimited.countSlots_encode hdialect husable, Layout.unnamed,
      hreads.parameters_eq, hreads.marksOf hdialect]
    rfl
  refine ⟨_, hrender, hsql, hcount, ?_⟩
  rw [hcount, Nat.add_eq_left]
  exact marksIn_eq_zero_iff

end Statement

/-- A deletion by number from a table whose name is the mark of an unnamed place. -/
def Delete.forgedSample : Delete where
  table := ⟨slotMark⟩
  slots := Slots.empty.setFilter
    (.binary (.column ⟨"users", "id"⟩) .equal (.parameter .unnamed))

/-- The name of the table becomes the first placeholder. -/
theorem Statement.marks_eq_unnamed_iff_forgedSample :
    (Statement.delete .forgedSample).build .postgres = .ok "DELETE FROM $1 WHERE id = $2" ∧
      ∃ markup, (Statement.delete .forgedSample).render .postgres = .ok markup ∧
        countSlots markup.encode = 1 + 1 := by
  have hbuild : (Statement.delete .forgedSample).build .postgres =
      .ok "DELETE FROM $1 WHERE id = $2" := rfl
  obtain ⟨markup, hrender, -, hcount, -⟩ := marks_eq_unnamed_iff (by decide) hbuild
  exact ⟨hbuild, markup, hrender, hcount⟩

/-- Two marks are found where there is one parameter. -/
theorem Statement.marks_ne_unnamed :
    ∃ markup, (Statement.delete .forgedSample).render .postgres = .ok markup ∧
      (Statement.delete .forgedSample).build .postgres = .ok (numberSlots .postgres markup.encode) ∧
      countSlots markup.encode ≠
        (Statement.delete .forgedSample).written.countP fun parameter => parameter.name?.isNone :=
  ⟨_, rfl, rfl, by decide⟩

end SqlText
