import SqlText.Proofs.Placeholder.Marks
import SqlText.Proofs.Statement.Leaves

/-!
# Plain statements have plain markup

A statement is plain if the texts among its leaves are.  No more is needed to have
plain markup in a plain dialect: strings and parameter names are checked when they
are written, and everything else that is written comes from the dialect or from the
rules themselves.
-/

namespace SqlText

open Layout (fixed)

variable {dialect : Dialect} {phrase : Phrase} {layout : Layout}

/-! ## Leaves that are plain -/

/-- The texts among leaves are plain. -/
def Layout.PlainTexts (leaves : Layout) : Prop :=
  ∀ text ∈ leaves.texts, Text.Plain text

namespace Layout.PlainTexts

variable {first second : Layout}

theorem left (h : (first ++ second : Layout).PlainTexts) : first.PlainTexts := by
  intro text htext
  refine h text ?_
  rw [texts_append]
  exact List.mem_append_left _ htext

theorem right (h : (first ++ second : Layout).PlainTexts) : second.PlainTexts := by
  intro text htext
  refine h text ?_
  rw [texts_append]
  exact List.mem_append_right _ htext

theorem uncons {text : String} (h : PlainTexts (.fixed text :: layout)) :
    Text.Plain text ∧ layout.PlainTexts :=
  List.forall_mem_cons.mp h

theorem condition {keyword : String} {clause? : Option Clause}
    (h : (leavesOfClause? clause?).PlainTexts) (hkeyword : Text.Plain keyword) :
    (Phrase.leaves (.condition keyword clause?)).PlainTexts :=
  List.forall_mem_cons.mpr ⟨hkeyword, h⟩

theorem column {column : Column} (h : column.leaves.PlainTexts) : column.Plain :=
  ⟨h.uncons.1, h.uncons.2.uncons.1⟩

theorem columns {columns : List Column} (h : PlainTexts (columns.flatMap Column.leaves)) :
    ∀ column ∈ columns, column.Plain := by
  induction columns with
  | nil => exact fun _ hcolumn => nomatch hcolumn
  | cons column rest ih =>
      rw [List.flatMap_cons] at h
      exact List.forall_mem_cons.mpr ⟨h.left.column, ih h.right⟩

theorem names {tables : List WithTable} (h : (leavesOfTables tables).PlainTexts) :
    ∀ table ∈ tables, Text.Plain table.name := by
  induction tables with
  | nil => exact fun _ htable => nomatch htable
  | cons table rest ih =>
      obtain ⟨name, select⟩ := table
      rw [leavesOfTables, WithTable.leaves] at h
      exact List.forall_mem_cons.mpr ⟨h.left.uncons.1, ih h.right⟩

end Layout.PlainTexts

/-- What slots hold is plain. -/
structure Slots.HoldPlain (slots : Slots) : Prop where
  filter : (leavesOfClause? slots.filter?).PlainTexts
  suffix : ∀ suffix, slots.suffix? = some suffix → Text.Plain suffix
  tables : (leavesOfTables slots.withTables).PlainTexts

theorem Slots.holdPlain {slots : Slots} (h : slots.leaves.PlainTexts) : slots.HoldPlain := by
  rw [Slots.leaves_eq] at h
  refine ⟨h.left.left, fun suffix hsuffix => ?_, h.right⟩
  have hplain := h.left.right
  rw [hsuffix] at hplain
  exact hplain.uncons.1

/-! ## Layouts that are plain in a dialect -/

/-- What a dialect writes for a layout is plain. -/
def Layout.PlainIn (layout : Layout) (dialect : Dialect) : Prop :=
  (layout.markup dialect).Plain

namespace Layout

variable {first second : Layout} {front back : String}

theorem plainIn_fixed {text : String} (h : Text.Plain text) : (fixed text).PlainIn dialect :=
  Markup.plain_text.mpr h

namespace PlainIn

theorem append (hfirst : first.PlainIn dialect) (hsecond : second.PlainIn dialect) :
    (first ++ second : Layout).PlainIn dialect := by
  rw [PlainIn, markup_append]
  exact Markup.plain_append.mpr ⟨hfirst, hsecond⟩

theorem behind (h : layout.PlainIn dialect) (hfront : Text.Plain front) :
    (fixed front ++ layout : Layout).PlainIn dialect :=
  (plainIn_fixed hfront).append h

theorem followed (h : layout.PlainIn dialect) (hback : Text.Plain back) :
    (layout ++ fixed back : Layout).PlainIn dialect :=
  h.append (plainIn_fixed hback)

theorem between (h : layout.PlainIn dialect) (hfront : Text.Plain front)
    (hback : Text.Plain back) : (fixed front ++ layout ++ fixed back : Layout).PlainIn dialect :=
  (h.behind hfront).followed hback

end PlainIn

end Layout

/-! ## Parts that are plain -/

theorem Condition.plain_text (condition : Condition) : Text.Plain condition.text := by
  cases condition <;> decide

theorem Condition.plain_of_form {condition : Condition} {whenEmpty : String}
    (h : condition.form = .membership whenEmpty) : Text.Plain whenEmpty := by
  cases condition <;> simp only [form, Form.membership.injEq, reduceCtorEq] at h <;> subst h <;>
    decide

/-- An operator stays plain with plain text around it. -/
theorem Condition.plain_around (condition : Condition) {first last : String}
    (hfirst : Text.Plain first) (hlast : Text.Plain last) :
    Text.Plain (first ++ condition.text ++ last) :=
  (hfirst.append condition.plain_text).append hlast

theorem plain_selectStart (distinct : Bool) :
    Text.Plain ("SELECT " ++ if distinct then "DISTINCT " else "") := by
  cases distinct <;> decide

theorem plain_creationStart (unique : Bool) :
    Text.Plain ("CREATE " ++ (if unique then "UNIQUE " else "") ++ "INDEX ") := by
  cases unique <;> decide

theorem Parameter.Usable.plain_markup {parameter : Parameter} (h : parameter.Usable)
    (hdialect : dialect.Plain) : (parameter.markup dialect).Plain := by
  obtain ⟨_ | name⟩ := parameter
  · simp [Parameter.markup, Piece.Plain]
  · obtain ⟨-, hname⟩ := h name rfl
    simp only [Parameter.markup]
    cases hmarker : dialect.text? .namedParameter with
    | none => simp [Piece.Plain, hname]
    | some marker => simp [hdialect.texts _ _ hmarker, hname]

theorem plainIn_groupingLayout (hdialect : dialect.Plain) {columns : List Column}
    (h : ∀ column ∈ columns, column.Plain) : (groupingLayout dialect columns).PlainIn dialect := by
  have hkeyword : Text.Plain " GROUP BY " := by decide
  cases columns with
  | nil => exact Markup.plain_nil
  | cons column rest =>
      exact Layout.plainIn_fixed (hkeyword.append (hdialect.listText h))

namespace Slots.HoldPlain

variable {slots : Slots} (h : slots.HoldPlain)
include h

theorem suffixLayout : slots.suffixLayout.PlainIn dialect := by
  have hspace : Text.Plain " " := by decide
  unfold Slots.suffixLayout
  cases hsuffix : slots.suffix? with
  | none => exact Markup.plain_nil
  | some suffix => exact Layout.plainIn_fixed (hspace.append (h.suffix suffix hsuffix))

theorem namesLayout (hdialect : dialect.Plain) (lists : Bool) {keyword : String}
    (hkeyword : Text.Plain (" " ++ keyword ++ " ")) :
    Layout.PlainIn (if lists then slots.namesLayout dialect keyword else []) dialect := by
  have hnames : Text.Plain
      (", ".intercalate (slots.withTables.map fun table => dialect.identifier table.name)) := by
    refine Text.plain_intercalate (by decide) fun text htext => ?_
    obtain ⟨table, htable, rfl⟩ := List.mem_map.mp htext
    exact hdialect.identifier (h.tables.names table htable)
  unfold Slots.namesLayout
  split
  · split
    · exact Markup.plain_nil
    · exact Layout.plainIn_fixed (hkeyword.append hnames)
  · exact Markup.plain_nil

end Slots.HoldPlain

/-! ## Phrases -/

/-- The markup of a plain phrase in a plain dialect is plain. -/
theorem Reads.plainIn (hdialect : dialect.Plain) (h : Reads dialect phrase layout)
    (hphrase : phrase.leaves.PlainTexts) : layout.PlainIn dialect := by
  have hspace : Text.Plain " " := by decide
  have hopen : Text.Plain "(" := by decide
  have hclose : Text.Plain ")" := by decide
  have hquery : Text.Plain " (" := by decide
  have hcomma : Text.Plain ", " := by decide
  have hwhere : Text.Plain " WHERE " := by decide
  induction h with
  | array | none | absent | withoutTables => exact Markup.plain_nil
  | value hvalue => exact Layout.plainIn_fixed (hdialect.literal hvalue)
  | column => exact Layout.plainIn_fixed (hdialect.columnText hphrase.column)
  | expression => exact Layout.plainIn_fixed (hdialect.expressionText hphrase.columns)
  | parameter husable =>
      rw [Layout.PlainIn, Layout.markup_parameter]
      exact husable.plain_markup hdialect
  | nested _ ih | query _ ih => exact (ih hphrase).between hopen hclose
  | any _ _ ih | all _ ih =>
      exact (ih hphrase).between ((hdialect.text _).append hquery) hclose
  | assignment _ ih =>
      have hcolumn := hdialect.columnText hphrase.left.column
      exact (ih hphrase.right).behind (hcolumn.append (by decide))
  | table _ ih =>
      obtain ⟨hname, hselect⟩ := hphrase.uncons
      exact (ih hselect).between ((hdialect.identifier hname).append (by decide)) hclose
  | one _ ih => exact ih hphrase.left
  | more _ _ ih ihrest =>
      exact ((ih hphrase.left).followed hcomma).append (ihrest hphrase.right)
  | @before condition _ _ _ _ ih =>
      exact (ih hphrase.right).behind (condition.plain_text.append hspace)
  | @after condition _ _ _ _ ih =>
      exact (ih hphrase.left).followed (hspace.append condition.plain_text)
  | @binary condition _ _ _ _ _ _ _ ihleft ihright =>
      exact ((ihleft hphrase.left).followed (condition.plain_around hspace hspace)).append
        (ihright hphrase.right)
  | @range condition _ _ low high _ _ _ _ hoperands _ _ _ ihleft ihlow ihhigh =>
      -- elements of an array hold no texts
      have helements : (low.leaves ++ high.leaves : Layout).PlainTexts := by
        rw [Elements.leaves_pair hoperands]
        intro text htext
        rw [Layout.texts_map_parameter] at htext
        cases htext
      have hstart := (ihleft hphrase.left).followed (condition.plain_around hspace hspace)
      exact ((hstart.append (ihlow helements.left)).followed (by decide)).append
        (ihhigh helements.right)
  | @memberOfQuery condition _ _ _ _ _ _ _ _ ihleft ihquery =>
      have hstart := (ihleft hphrase.left).followed (condition.plain_around hspace hquery)
      exact (hstart.append (ihquery hphrase.right)).followed hclose
  | memberOfNothing hform => exact Layout.plainIn_fixed (Condition.plain_of_form hform)
  | @memberOfList condition _ _ elements _ _ _ _ _ _ ihleft ihitems =>
      have hstart := (ihleft hphrase.left).followed (condition.plain_around hspace hquery)
      refine (hstart.append (ihitems ?_)).followed hclose
      rw [Phrase.leaves, elements.flatMap_leaves]
      exact hphrase.right
  | present _ ih => exact (ih hphrase.uncons.2).behind hphrase.uncons.1
  | withTables _ _ ih =>
      rw [Phrase.leaves, leavesOfTables_eq] at hphrase
      exact (ih hphrase).between (by decide) hspace
  | @select table columns distinct groupBy having? slots head items filter having _ _ _ _ _
      ihhead ihitems ihfilter ihhaving =>
      have hslots : slots.HoldPlain := Slots.holdPlain hphrase.right
      have htable : Text.Plain table.name := hphrase.left.left.left.uncons.1
      have hoperands : (leavesOfOperands columns).PlainTexts := hphrase.left.left.left.uncons.2
      have hgroups : ∀ column ∈ groupBy, column.Plain := hphrase.left.left.right.columns
      have hfrom : Text.Plain " FROM " := by decide
      have hitems : Layout.PlainIn (if columns.isEmpty then fixed "*" else items) dialect := by
        split
        · exact Layout.plainIn_fixed (by decide)
        · rw [Phrase.leaves, ← leavesOfOperands_eq] at ihitems
          exact ihitems hoperands
      have hhead := (ihhead hslots.tables).followed (plain_selectStart distinct)
      have hnamed := (hhead.append hitems).followed (hfrom.append (hdialect.identifier htable))
      have hfiltered := hnamed.append (ihfilter (hslots.filter.condition hwhere))
      have hgrouped := hfiltered.append (plainIn_groupingLayout hdialect hgroups)
      exact (hgrouped.append (ihhaving (hphrase.left.right.condition (by decide)))).append
        hslots.suffixLayout
  | selectStatement _ ih => exact ih hphrase
  | @insertStatement insert _ _ _ _ _ ihhead ihvalues =>
      have hslots : insert.slots.HoldPlain := Slots.holdPlain hphrase.right
      obtain ⟨htable, hcolumns⟩ := hphrase.left.left.uncons
      have hinsert : Text.Plain "INSERT INTO " := by decide
      have hinto := (hinsert.append (hdialect.identifier htable)).append hquery
      have hvalues : Text.Plain ") VALUES (" := by decide
      have hnamed := (hinto.append (hdialect.listText hcolumns.columns)).append hvalues
      rw [Phrase.leaves, ← leavesOfOperands_eq] at ihvalues
      have hstart := ((ihhead hslots.tables).followed hnamed).append (ihvalues hphrase.left.right)
      exact (hstart.followed hclose).append hslots.suffixLayout
  | @updateStatement update _ _ _ _ _ _ _ ihhead ihassignments ihfilter =>
      have hfrom : Text.Plain (" " ++ "FROM" ++ " ") := by decide
      have hslots : update.slots.HoldPlain := Slots.holdPlain hphrase.right
      obtain ⟨htable, hassignments⟩ := hphrase.left.uncons
      have hupdate : Text.Plain "UPDATE " := by decide
      have hset : Text.Plain " SET " := by decide
      have hnamed := (hupdate.append (hdialect.identifier htable)).append hset
      rw [Phrase.leaves, List.flatMap_map] at ihassignments
      have hstart := ((ihhead hslots.tables).followed hnamed).append (ihassignments hassignments)
      have hlisted := hstart.append
        (hslots.namesLayout hdialect dialect.updateListsTables hfrom)
      exact (hlisted.append (ihfilter (hslots.filter.condition hwhere))).append hslots.suffixLayout
  | @deleteStatement delete _ _ _ _ _ ihhead ihfilter =>
      have husing : Text.Plain (" " ++ "USING" ++ " ") := by decide
      obtain ⟨htable, hslots⟩ := hphrase.uncons
      have hslots : delete.slots.HoldPlain := Slots.holdPlain hslots
      have hdelete : Text.Plain "DELETE FROM " := by decide
      have hnamed := hdelete.append (hdialect.identifier htable)
      have hlisted := ((ihhead hslots.tables).followed hnamed).append
        (hslots.namesLayout hdialect dialect.deleteListsTables husing)
      exact (hlisted.append (ihfilter (hslots.filter.condition hwhere))).append hslots.suffixLayout
  | @rawStatement raw _ _ _ _ _ ihhead ihfilter =>
      obtain ⟨hsql, hslots⟩ := hphrase.uncons
      have hslots : raw.slots.HoldPlain := Slots.holdPlain hslots
      exact (((ihhead hslots.tables).followed hsql).append
        (ihfilter (hslots.filter.condition hwhere))).append hslots.suffixLayout
  | @createIndexStatement creation =>
      have hslots : creation.slots.HoldPlain := Slots.holdPlain hphrase.right
      obtain ⟨hname, hrest⟩ := hphrase.left.uncons
      obtain ⟨htable, hcolumns⟩ := hrest.uncons
      have hon : Text.Plain " ON " := by decide
      have hstart := plain_creationStart creation.index.unique
      have htext := ((hstart.append (hdialect.identifier hname)).append hon).append
        (hdialect.identifier htable)
      have hopened := htext.append hquery
      have hlisted := (hopened.append (hdialect.listText hcolumns.columns)).append hclose
      exact (Layout.plainIn_fixed hlisted).append hslots.suffixLayout
  | @dropIndexStatement removal =>
      have hslots : removal.slots.HoldPlain := Slots.holdPlain hphrase.right
      obtain ⟨hname, hrest⟩ := hphrase.left.uncons
      have hdrop : Text.Plain "DROP INDEX " := by decide
      have hon : Text.Plain " ON " := by decide
      have htable : Text.Plain (if dialect.dropIndexNamesTable then
          " ON " ++ removal.index.table.text dialect else "") := by
        split
        · exact hon.append (hdialect.identifier hrest.uncons.1)
        · exact Text.plain_empty
      have htext := (hdrop.append (hdialect.identifier hname)).append htable
      exact (Layout.plainIn_fixed htext).append hslots.suffixLayout

/-- The markup of a plain statement in a plain dialect is plain. -/
theorem Statement.Plain.markup {statement : Statement} (hstatement : statement.Plain)
    (hdialect : dialect.Plain) (h : Reads dialect (.statement statement) layout) :
    (layout.markup dialect).Plain :=
  h.plainIn hdialect hstatement

end SqlText
