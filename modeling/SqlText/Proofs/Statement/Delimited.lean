import Mathlib.Data.List.Chain
import SqlText.Proofs.Statement.Names
import SqlText.Proofs.Statement.Resolved
import SqlText.Proofs.Text.Words

/-!
# Placeholders touch nothing

A placeholder is a marker and perhaps a number, and would be read as another one if a
digit stood behind it.  But nothing in a statement stands directly next to a parameter: in
front of it there is a space or an opening parenthesis, and behind it a stop, which is a
space, a comma, a closing parenthesis, or the end of the text.

The rules of `Reads` contribute the delimiters.  Each of them puts a fixed text between any
two of its parts, and this text either ends so that a parameter may follow, or begins so that
it may follow a parameter, or both:

```text
in front   "("  "ANY ("  "name = "  "name AS ("  "EXISTS "  " WHERE "  "SELECT "  "VALUES ("
behind     ")"  " IS NULL"  " FROM name"  " WHERE "  " GROUP BY name"  " USING name"  " suffix"
between    ", "  " = "  " BETWEEN "  " AND "  " IN ("
```

So neighbours in a layout fit together (`Reads.delimited`).  Filling the places of
parameters leaves the fixed texts next to them as they are, and what holds of a layout
holds of every text that is made from it (`Layout.Delimited.apart`).
-/

namespace SqlText

open Layout (fixed)

/-! ## Texts around a placeholder -/

namespace Text

/-- The characters in front of placeholders. -/
def isStart (c : Char) : Bool :=
  c == ' ' || c == '('

/-- A text ends so that a placeholder can follow. -/
def Opens (front : List Char) : Prop :=
  front.getLast?.any isStart = true

/-- A text begins so that it can follow a placeholder. -/
def Closes (back : List Char) : Prop :=
  back.head?.any isStop = true

instance (front : List Char) : Decidable (Opens front) :=
  inferInstanceAs (Decidable (_ = true))

instance (back : List Char) : Decidable (Closes back) :=
  inferInstanceAs (Decidable (_ = true))

theorem Opens.append_left {back : List Char} (h : Opens back) (front : List Char) :
    Opens (front ++ back) := by
  obtain ⟨c, hc, hstart⟩ := (Option.any_eq_true _ _).mp h
  rw [Opens, List.getLast?_append, hc]
  exact hstart

theorem Closes.append_right {front : List Char} (h : Closes front) (back : List Char) :
    Closes (front ++ back) := by
  obtain ⟨c, hc, hstop⟩ := (Option.any_eq_true _ _).mp h
  rw [Closes, List.head?_append, hc]
  exact hstop

theorem Closes.stops {back : List Char} (h : Closes back) : Stops back := by
  obtain ⟨c, hc, hstop⟩ := (Option.any_eq_true _ _).mp h
  intro other hother
  rw [hc, Option.mem_some_iff] at hother
  rwa [← hother]

theorem opens_append {back : String} (h : Opens back.toList) (front : String) :
    Opens (front ++ back).toList := by
  rw [String.toList_append]
  exact h.append_left _

theorem closes_append {front : String} (h : Closes front.toList) (back : String) :
    Closes (front ++ back).toList := by
  rw [String.toList_append]
  exact h.append_right _

/-- Where a text stops, the digits of a number in front of it are the whole number. -/
theorem Stops.takeWhile_isDigit {back : List Char} (h : Stops back) (number : Nat) :
    ((toString number).toList ++ back).takeWhile Char.isDigit = (toString number).toList := by
  have hdigits : ∀ c ∈ (toString number).toList, c.isDigit = true := by
    intro c hc
    rw [show (toString number).toList = Nat.toDigits 10 number from Nat.toList_repr] at hc
    exact isDigit_of_mem_toDigits hc
  have hback : back.takeWhile Char.isDigit = [] := by
    cases back with
    | nil => rfl
    | cons c rest =>
        have hstop : isStop c = true := h c rfl
        simp only [isStop, Bool.or_eq_true, beq_iff_eq] at hstop
        rcases hstop with (rfl | rfl) | rfl <;> rfl
  rw [List.takeWhile_append_of_pos hdigits, hback, List.append_nil]

/-- Within a text, a placeholder stands between what is in front of it and what is behind
it, and touches neither. -/
structure Apart (text front placeholder back : String) : Prop where
  eq : text = front ++ placeholder ++ back
  opens : Opens front.toList
  stops : Stops back.toList

end Text

/-! ## Neighbours -/

/-- A fixed text that a parameter can follow. -/
def Fragment.Opens : Fragment → Prop
  | .fixed text => Text.Opens text.toList
  | .parameter _ => False

/-- A fixed text that can follow a parameter. -/
def Fragment.Closes : Fragment → Prop
  | .fixed text => Text.Closes text.toList
  | .parameter _ => False

/-- One of two neighbours delimits the other.  A parameter does not delimit anything, so
the text next to it does. -/
def Fragment.Fits (first second : Fragment) : Prop :=
  first.Opens ∨ second.Closes

namespace Layout

variable {first second layout : Layout}

/-- All neighbours fit. -/
def Delimited (layout : Layout) : Prop :=
  layout.IsChain Fragment.Fits

/-- The layout is empty, or a parameter can follow it. -/
def Opens (layout : Layout) : Prop :=
  ∀ fragment ∈ layout.getLast?, fragment.Opens

/-- The layout is empty, or it can follow a parameter. -/
def Closes (layout : Layout) : Prop :=
  ∀ fragment ∈ layout.head?, fragment.Closes

/-- The layout begins with a fixed text. -/
def BeginsFixed (layout : Layout) : Prop :=
  ∃ text, layout.head? = some (.fixed text)

theorem delimited_nil : Delimited [] :=
  List.isChain_nil

theorem delimited_fixed (text : String) : (fixed text).Delimited :=
  List.isChain_singleton _

theorem opens_append_fixed (front : Layout) {text : String} (h : Text.Opens text.toList) :
    (front ++ fixed text : Layout).Opens := by
  intro fragment hfragment
  rw [fixed, List.getLast?_concat, Option.mem_some_iff] at hfragment
  exact hfragment ▸ h

theorem closes_nil : Closes [] :=
  fun _ h => nomatch h

theorem closes_fixed_append {text : String} (h : Text.Closes text.toList) (back : Layout) :
    (fixed text ++ back : Layout).Closes := by
  intro fragment hfragment
  rw [← Option.mem_some_iff.mp hfragment]
  exact h

theorem BeginsFixed.append (h : first.BeginsFixed) (second : Layout) :
    (first ++ second : Layout).BeginsFixed := by
  obtain ⟨text, htext⟩ := h
  exact ⟨text, by rw [List.head?_append, htext]; rfl⟩

namespace Delimited

theorem append_of_opens (hfirst : first.Delimited) (hopens : first.Opens)
    (hsecond : second.Delimited) : (first ++ second : Layout).Delimited :=
  List.isChain_append.mpr ⟨hfirst, hsecond, fun _ hlast _ _ => .inl (hopens _ hlast)⟩

theorem append_of_closes (hfirst : first.Delimited) (hsecond : second.Delimited)
    (hcloses : second.Closes) : (first ++ second : Layout).Delimited :=
  List.isChain_append.mpr ⟨hfirst, hsecond, fun _ _ _ hnext => .inr (hcloses _ hnext)⟩

variable {front back separator : String}

theorem behind (h : layout.Delimited) (hfront : Text.Opens front.toList) :
    (fixed front ++ layout : Layout).Delimited :=
  (delimited_fixed front).append_of_opens (opens_append_fixed [] hfront) h

theorem followed (h : layout.Delimited) (hback : Text.Closes back.toList) :
    (layout ++ fixed back : Layout).Delimited :=
  h.append_of_closes (delimited_fixed back) (closes_fixed_append hback [])

theorem between (h : layout.Delimited) (hfront : Text.Opens front.toList)
    (hback : Text.Closes back.toList) : (fixed front ++ layout ++ fixed back : Layout).Delimited :=
  (h.behind hfront).followed hback

theorem opened (hfirst : (first ++ fixed separator : Layout).Delimited)
    (hopens : Text.Opens separator.toList) (hsecond : second.Delimited) :
    (first ++ fixed separator ++ second : Layout).Delimited :=
  hfirst.append_of_opens (opens_append_fixed first hopens) hsecond

theorem join (hfirst : first.Delimited) (hsecond : second.Delimited)
    (hcloses : Text.Closes separator.toList) (hopens : Text.Opens separator.toList) :
    (first ++ fixed separator ++ second : Layout).Delimited :=
  (hfirst.followed hcloses).opened hopens hsecond

theorem operator (hfirst : first.Delimited) (condition : Condition) {last : String}
    (hlast : Text.Opens last.toList) (hsecond : second.Delimited) :
    (first ++ fixed (" " ++ condition.text ++ last) ++ second : Layout).Delimited := by
  have hcloses : Text.Closes (" " ++ condition.text).toList := Text.closes_append (by decide) _
  exact hfirst.join hsecond (Text.closes_append hcloses last) (Text.opens_append hlast _)

end Delimited

/-- The layout is delimited and can follow whatever stands in front of it. -/
structure Continues (layout : Layout) : Prop where
  delimited : layout.Delimited
  closes : layout.Closes

theorem continues_nil : Continues [] :=
  ⟨delimited_nil, closes_nil⟩

theorem continues_fixed {text : String} (h : Text.Closes text.toList) : (fixed text).Continues :=
  ⟨delimited_fixed text, closes_fixed_append h []⟩

theorem Delimited.append (hfirst : first.Delimited) (hsecond : second.Continues) :
    (first ++ second : Layout).Delimited :=
  hfirst.append_of_closes hsecond.delimited hsecond.closes

end Layout

open Layout (continues_nil continues_fixed delimited_fixed)

/-! ## Phrases -/

section Phrases

variable {dialect : Dialect} {phrase : Phrase} {layout : Layout}

theorem Slots.continues_suffixLayout (slots : Slots) : slots.suffixLayout.Continues := by
  unfold suffixLayout
  split
  · exact continues_fixed (Text.closes_append (by decide) _)
  · exact continues_nil

theorem Slots.continues_namesLayout (slots : Slots) (dialect : Dialect) (lists : Bool)
    (keyword : String) :
    Layout.Continues (if lists then slots.namesLayout dialect keyword else []) := by
  unfold namesLayout
  split
  · split
    · exact continues_nil
    · have hspace : Text.Closes (" " ++ keyword).toList := Text.closes_append (by decide) _
      exact continues_fixed (Text.closes_append (Text.closes_append hspace _) _)
  · exact continues_nil

theorem continues_groupingLayout (dialect : Dialect) (columns : List Column) :
    (groupingLayout dialect columns).Continues := by
  unfold groupingLayout
  split
  · exact continues_nil
  · exact continues_fixed (Text.closes_append (by decide) _)

namespace Reads

/-- After the named queries in front of a statement anything can follow. -/
theorem delimited_start {tables : List WithTable} (h : Reads dialect (.withTables tables) layout)
    (hlayout : layout.Delimited) (text : String) : (layout ++ fixed text : Layout).Delimited := by
  have hopens : layout.Opens := by
    cases h with
    | withoutTables => exact fun _ hlast => nomatch hlast
    | withTables => exact Layout.opens_append_fixed _ (by decide)
  exact hlayout.append_of_opens hopens (delimited_fixed text)

theorem beginsFixed_withTables {tables : List WithTable}
    (h : Reads dialect (.withTables tables) layout) (text : String) :
    (layout ++ fixed text : Layout).BeginsFixed := by
  cases h with
  | withoutTables => exact ⟨text, rfl⟩
  | withTables => exact ⟨"WITH ", rfl⟩

/-- A clause after a keyword can follow whatever stands in front of it. -/
theorem continues {keyword : String} {clause? : Option Clause}
    (h : Reads dialect (.condition keyword clause?) layout)
    (hkeyword : Text.Closes keyword.toList) (hlayout : layout.Delimited) : layout.Continues := by
  refine ⟨hlayout, ?_⟩
  cases h with
  | absent => exact Layout.closes_nil
  | present => exact Layout.closes_fixed_append hkeyword _

end Reads

/-- The keyword of a phrase, if it has one, ends so that a parameter can follow. -/
def Phrase.KeywordOpens : Phrase → Prop
  | .condition keyword _ => Text.Opens keyword.toList
  | _ => True

/-- In the layout of a phrase all neighbours fit. -/
theorem Reads.delimited (h : Reads dialect phrase layout) (hphrase : phrase.KeywordOpens) :
    layout.Delimited := by
  have hspace : Text.Opens " ".toList := by decide
  have hopen : Text.Opens " (".toList := by decide
  have hwhere : Text.Opens " WHERE ".toList := by decide
  -- parts that stand between the texts of a rule come first, then statements, where a part may
  -- be missing and the next one has to fit as well
  induction h with
  | array | none | absent | withoutTables => exact Layout.delimited_nil
  | value | column | expression | memberOfNothing => exact delimited_fixed _
  | parameter => exact List.isChain_singleton _
  | nested _ ih | query _ ih => exact (ih trivial).between (by decide) (by decide)
  | any _ _ ih | all _ ih => exact (ih trivial).between (Text.opens_append hopen _) (by decide)
  | table _ ih => exact (ih trivial).between (Text.opens_append (by decide) _) (by decide)
  | assignment _ ih => exact (ih trivial).behind (Text.opens_append (by decide) _)
  | one _ ih | selectStatement _ ih => exact ih trivial
  | more _ _ ih ihrest => exact (ih trivial).join (ihrest trivial) (by decide) (by decide)
  | before _ _ ih => exact (ih trivial).behind (Text.opens_append hspace _)
  | after _ _ ih => exact (ih trivial).followed (Text.closes_append (by decide) _)
  | binary _ _ _ ihleft ihright => exact (ihleft trivial).operator _ hspace (ihright trivial)
  | @range condition _ _ _ _ _ _ _ _ _ _ _ _ ihleft ihlow ihhigh =>
      have hlow := (ihleft trivial).operator condition hspace (ihlow trivial)
      exact hlow.join (ihhigh trivial) (by decide) (by decide)
  | memberOfQuery _ _ _ ihleft ihitems | memberOfList _ _ _ _ ihleft ihitems =>
      exact ((ihleft trivial).operator _ hopen (ihitems trivial)).followed (by decide)
  | present _ ih => exact (ih trivial).behind hphrase
  | withTables _ _ ih => exact (ih trivial).between (by decide) (by decide)
  | @select table columns distinct groupBy _ slots _ items _ _ _ hhead _ hfilter hhaving ihhead
      ihitems ihfilter ihhaving =>
      have hselect : Text.Opens ("SELECT " ++ if distinct then "DISTINCT " else "").toList := by
        cases distinct <;> decide
      have hfrom : Text.Closes (" FROM " ++ table.text dialect).toList :=
        Text.closes_append (by decide) _
      have hkeyword : Text.Opens " HAVING ".toList := by decide
      have hcolumns : Layout.Delimited (if columns.isEmpty then fixed "*" else items) := by
        split
        · exact delimited_fixed _
        · exact ihitems trivial
      -- what is behind the table fits whatever is there, a filter or what comes after it
      have hstart := (hhead.delimited_start (ihhead trivial) _).opened hselect hcolumns
      have hfiltered := (hstart.followed hfrom).append
        (hfilter.continues (by decide) (ihfilter hwhere))
      have hgrouped := hfiltered.append (continues_groupingLayout dialect groupBy)
      have hgroups := hgrouped.append (hhaving.continues (by decide) (ihhaving hkeyword))
      exact hgroups.append slots.continues_suffixLayout
  | @insertStatement insert _ _ _ hhead _ ihhead ihvalues =>
      have hvalues : Text.Opens ("INSERT INTO " ++ insert.table.text dialect ++ " (" ++
          Column.listText (insert.values.map Prod.fst) dialect ++ ") VALUES (").toList :=
        Text.opens_append (by decide) _
      have hstart := (hhead.delimited_start (ihhead trivial) _).opened hvalues (ihvalues trivial)
      exact (hstart.followed (by decide)).append insert.slots.continues_suffixLayout
  | @updateStatement update _ _ _ _ hhead _ hfilter ihhead ihassignments ihfilter =>
      have hset : Text.Opens ("UPDATE " ++ update.table.text dialect ++ " SET ").toList :=
        Text.opens_append (by decide) _
      have hstart := (hhead.delimited_start (ihhead trivial) _).opened hset (ihassignments trivial)
      have hlisted := hstart.append
        (update.slots.continues_namesLayout dialect dialect.updateListsTables "FROM")
      have hfiltered := hlisted.append (hfilter.continues (by decide) (ihfilter hwhere))
      exact hfiltered.append update.slots.continues_suffixLayout
  | @deleteStatement delete _ _ _ hhead hfilter ihhead ihfilter =>
      have hstart := hhead.delimited_start (ihhead trivial)
        ("DELETE FROM " ++ delete.table.text dialect)
      have hlisted := hstart.append
        (delete.slots.continues_namesLayout dialect dialect.deleteListsTables "USING")
      have hfiltered := hlisted.append (hfilter.continues (by decide) (ihfilter hwhere))
      exact hfiltered.append delete.slots.continues_suffixLayout
  | @rawStatement raw _ _ _ hhead hfilter ihhead ihfilter =>
      have hstart := hhead.delimited_start (ihhead trivial) raw.sql
      have hfiltered := hstart.append (hfilter.continues (by decide) (ihfilter hwhere))
      exact hfiltered.append raw.slots.continues_suffixLayout
  | @createIndexStatement creation =>
      exact (delimited_fixed _).append creation.slots.continues_suffixLayout
  | @dropIndexStatement removal =>
      exact (delimited_fixed _).append removal.slots.continues_suffixLayout

/-- The text of a statement does not begin with a parameter. -/
theorem Reads.beginsFixed {statement : Statement}
    (h : Reads dialect (.statement statement) layout) : layout.BeginsFixed := by
  cases h with
  | selectStatement hselect =>
      cases hselect with
      | select _ hhead =>
          iterate 6 refine Layout.BeginsFixed.append ?_ _
          exact hhead.beginsFixed_withTables _
  | insertStatement _ hhead =>
      iterate 3 refine Layout.BeginsFixed.append ?_ _
      exact hhead.beginsFixed_withTables _
  | updateStatement _ hhead =>
      iterate 4 refine Layout.BeginsFixed.append ?_ _
      exact hhead.beginsFixed_withTables _
  | deleteStatement _ hhead =>
      iterate 3 refine Layout.BeginsFixed.append ?_ _
      exact hhead.beginsFixed_withTables _
  | rawStatement _ hhead =>
      iterate 2 refine Layout.BeginsFixed.append ?_ _
      exact hhead.beginsFixed_withTables _
  | createIndexStatement | dropIndexStatement => exact ⟨_, rfl⟩

end Phrases

/-! ## Texts that are made from a layout -/

/-- How far the text of a statement has been completed. -/
inductive Stage
  /-- All places are still marks. -/
  | written
  /-- The places of unnamed parameters are placeholders. -/
  | built
  /-- All places are placeholders. -/
  | resolved
deriving DecidableEq, Repr

/-- The places that are placeholders. -/
def Stage.fills : Stage → Piece → Bool
  | written, _ => false
  | built, piece => piece.isSlot
  | resolved, piece => piece.isSlot || piece.isNamed

theorem Stage.fills_text (stage : Stage) (content : String) :
    stage.fills (.text content) = false := by
  cases stage <;> rfl

/-- The text of a statement at a stage. -/
def Statement.textAt (dialect : Dialect) : Stage → Statement → Except Fault String
  | .written, statement => do return (← statement.render dialect).encode
  | .built, statement => statement.build dialect
  | .resolved, statement => do return (← statement.buildNamed dialect).text

/-- The text that stands for a parameter at a stage: the placeholder of a position if its place
is filled, or else what was written for it. -/
def Parameter.textAt (dialect : Dialect) (stage : Stage) (position : Nat)
    (parameter : Parameter) : String :=
  if (parameter.markup dialect).any stage.fills then dialect.placeholder position
  else (parameter.markup dialect).encode

namespace Layout

variable {dialect : Dialect} {stage : Stage} {layout : Layout}

/-- The text of a layout at a stage, with its first placeholder at a position. -/
def textAt (dialect : Dialect) (stage : Stage) (position : Nat) (layout : Layout) : String :=
  ((layout.markup dialect).fill dialect stage.fills position).encode

/-- The number of placeholders in a layout at a stage. -/
def filled (dialect : Dialect) (stage : Stage) (layout : Layout) : Nat :=
  (layout.markup dialect).countP stage.fills

theorem textAt_append (first second : Layout) (position : Nat) :
    (first ++ second : Layout).textAt dialect stage position =
      first.textAt dialect stage position ++
        second.textAt dialect stage (position + first.filled dialect stage) := by
  rw [textAt, markup_append, Markup.fill_append, Markup.encode_append]
  rfl

theorem textAt_fixed (text : String) (position : Nat) :
    (fixed text).textAt dialect stage position = text := by
  rw [textAt, markup_fixed, Markup.text, Markup.fill, stage.fills_text]
  simp [Markup.fill, Piece.encode]

theorem textAt_parameter (parameter : Parameter) (position : Nat) :
    textAt dialect stage position [.parameter parameter] =
      parameter.textAt dialect stage position := by
  obtain ⟨piece, hpiece⟩ : ∃ piece, parameter.markup dialect = [piece] := by
    obtain ⟨_ | name⟩ := parameter
    · exact ⟨_, rfl⟩
    · rw [Parameter.markup]
      split <;> exact ⟨_, rfl⟩
  rw [textAt, markup_parameter, Parameter.textAt, hpiece]
  cases hfills : stage.fills piece <;> simp [Markup.fill, hfills, Piece.encode]

/-- In the text of a delimited layout every parameter stands apart. -/
theorem Delimited.apart (h : layout.Delimited) (hbegins : layout.BeginsFixed)
    {before after : Layout} {parameter : Parameter} (dialect : Dialect) (stage : Stage)
    (hlayout : layout = before ++ .parameter parameter :: after) (position : Nat) :
    Text.Apart (layout.textAt dialect stage position) (before.textAt dialect stage position)
      (parameter.textAt dialect stage (position + before.filled dialect stage))
      (after.textAt dialect stage
        (position + (before ++ [.parameter parameter] : Layout).filled dialect stage)) := by
  subst hlayout
  obtain ⟨-, hafter, hlast⟩ := List.isChain_append.mp h
  refine ⟨?_, ?_, ?_⟩
  · rw [List.append_cons before, textAt_append, textAt_append, textAt_parameter]
  · -- the text does not begin with the parameter, so there is a last fragment before it
    rcases List.eq_nil_or_concat' before with rfl | ⟨front, last, rfl⟩
    · obtain ⟨text, htext⟩ := hbegins
      cases htext
    · have hopens : last.Opens :=
        (hlast last (by simp) (.parameter parameter) rfl).resolve_right id
      cases last with
      | parameter other => exact absurd hopens id
      | fixed text =>
          show Text.Opens (textAt dialect stage position (front ++ fixed text)).toList
          rw [textAt_append, textAt_fixed]
          exact Text.opens_append hopens _
  · cases after with
    | nil => exact Text.stops_nil
    | cons next rest =>
        have hcloses : next.Closes := (List.isChain_cons_cons.mp hafter).1.resolve_left id
        cases next with
        | parameter other => exact absurd hcloses id
        | fixed text =>
            show Text.Stops (textAt dialect stage _ (fixed text ++ rest)).toList
            rw [textAt_append, textAt_fixed]
            exact (Text.closes_append hcloses _).stops

end Layout

/-! ## Statements -/

namespace Markup

variable {dialect : Dialect} {chosen other : Piece → Bool}

theorem fill_congr {markup : Markup} (h : ∀ piece ∈ markup, chosen piece = other piece)
    (position : Nat) :
    markup.fill dialect chosen position = markup.fill dialect other position := by
  induction markup generalizing position with
  | nil => rfl
  | cons piece rest ih =>
      have hrest := ih fun next hnext => h next (List.mem_cons_of_mem _ hnext)
      rw [fill, fill, h piece (List.mem_cons_self ..), hrest, hrest]

/-- Where places are of one kind only, filling one kind after the other fills all of them. -/
theorem fill_isNamed_fill_isSlot {markup : Markup}
    (h : markup.countP Piece.isSlot = 0 ∨ markup.any Piece.isNamed = false) :
    (markup.fill dialect Piece.isSlot 1).fill dialect Piece.isNamed 1 =
      markup.fill dialect Stage.resolved.fills 1 := by
  rcases h with hslots | hnamed
  · rw [fill_eq_self hslots]
    refine fill_congr (fun piece hpiece => ?_) 1
    have hslot : piece.isSlot = false := by simpa using List.countP_eq_zero.mp hslots piece hpiece
    rw [Stage.fills, hslot, Bool.false_or]
  · have hleft : (markup.fill dialect Piece.isSlot 1).countP Piece.isNamed = 0 := by
      rw [List.countP_eq_zero]
      refine List.any_eq_false.mp ?_
      rw [any_fill_of_disjoint (fun _ => rfl) fun _ => Piece.isNamed_of_isSlot, hnamed]
    rw [fill_eq_self hleft]
    refine fill_congr (fun piece hpiece => ?_) 1
    have hother : piece.isNamed = false := by simpa using List.any_eq_false.mp hnamed piece hpiece
    rw [Stage.fills, hother, Bool.or_false]

end Markup

namespace Statement

variable {dialect : Dialect} {statement : Statement} {stage : Stage} {sql : String}

/-- A statement that was built has parameters of one kind only. -/
theorem unmixed_of_build_eq_ok {layout : Layout} (hdialect : dialect.Plain)
    (hstatement : statement.Plain) (hreads : Reads dialect (.statement statement) layout)
    (h : statement.build dialect = .ok sql) :
    (layout.markup dialect).countP Piece.isSlot = 0 ∨
      (layout.markup dialect).any Piece.isNamed = false := by
  have hplain := hstatement.markup hdialect hreads
  rw [build_of_render hdialect hstatement hreads.render_eq] at h
  split at h
  case isTrue => cases h
  case isFalse hmixes =>
    have hmarks := mt (mixed_encode_iff hdialect hstatement hreads).mp hmixes
    rwa [countSlots_encode hplain, hasNames_encode hplain, Nat.pos_iff_ne_zero, not_and_or,
      not_not, Bool.not_eq_true] at hmarks

/-- The text of a statement at any stage is that of a layout. -/
theorem exists_of_textAt_eq_ok (hdialect : dialect.Plain) (hstatement : statement.Plain)
    (h : statement.textAt dialect stage = .ok sql) :
    ∃ layout, Reads dialect (.statement statement) layout ∧
      sql = layout.textAt dialect stage 1 := by
  cases stage with
  | written =>
      obtain ⟨markup, hrender, hencode⟩ := bind_eq_ok.mp h
      obtain ⟨layout, hreads, rfl⟩ := render_eq_ok_iff.mp hrender
      have hnone : (layout.markup dialect).countP Stage.written.fills = 0 := by
        simp [List.countP_eq_zero, Stage.fills]
      refine ⟨layout, hreads, ?_⟩
      rw [Layout.textAt, Markup.fill_eq_self hnone, pure_eq_ok.mp hencode]
  | built =>
      obtain ⟨layout, hreads, -, rfl⟩ := exists_of_build_eq_ok hdialect hstatement h
      exact ⟨layout, hreads, rfl⟩
  | resolved =>
      obtain ⟨named, hnamed, htext⟩ := bind_eq_ok.mp h
      rw [buildNamed_eq] at hnamed
      obtain ⟨text, hbuild, hresolve⟩ := bind_eq_ok.mp hnamed
      obtain ⟨layout, hreads, hplain, rfl⟩ := exists_of_build_eq_ok hdialect hstatement hbuild
      have hunmixed := unmixed_of_build_eq_ok hdialect hstatement hreads hbuild
      rw [resolveNames_encode dialect (hplain.fill (hdialect.text _) _ _)] at hresolve
      refine ⟨layout, hreads, ?_⟩
      rw [Layout.textAt, ← Markup.fill_isNamed_fill_isSlot hunmixed, ← pure_eq_ok.mp htext,
        ← Except.ok.inj hresolve]

/-- At every stage, what stands for a parameter touches nothing: in front of it there is a
space or an opening parenthesis, and behind it a space, a comma, a closing parenthesis or the
end of the text.  So a number at its end is not continued by what is behind it. -/
theorem placeholders_apart (hdialect : dialect.Plain) (hstatement : statement.Plain)
    (h : statement.textAt dialect stage = .ok sql) :
    ∃ layout, Reads dialect (.statement statement) layout ∧
      layout.parameters = statement.written ∧
      ∀ (before : Layout) parameter after, layout = before ++ .parameter parameter :: after →
        ∃ front back, front = before.textAt dialect stage 1 ∧
          Text.Apart sql front
            (parameter.textAt dialect stage (before.filled dialect stage + 1)) back ∧
          ∀ number : Nat, ((toString number).toList ++ back.toList).takeWhile Char.isDigit =
            (toString number).toList := by
  obtain ⟨layout, hreads, rfl⟩ := exists_of_textAt_eq_ok hdialect hstatement h
  refine ⟨layout, hreads, hreads.parameters_eq, fun before parameter after hlayout => ?_⟩
  have hdelimited : layout.Delimited := hreads.delimited trivial
  have hapart := hdelimited.apart hreads.beginsFixed dialect stage hlayout 1
  rw [Nat.add_comm 1] at hapart
  exact ⟨_, _, rfl, hapart, hapart.stops.takeWhile_isDigit⟩

/-- Three placeholders, two of them in a range. -/
theorem placeholders_apart_sample :
    ∃ layout : Layout, layout.parameters = (Statement.delete .sample).written ∧
      ∀ (before : Layout) parameter after, layout = before ++ .parameter parameter :: after →
        ∃ front back, front = before.textAt .postgres .resolved 1 ∧
          Text.Apart "DELETE FROM users WHERE (age = $1) AND (rank BETWEEN $2 AND $3)" front
            (parameter.textAt .postgres .resolved (before.filled .postgres .resolved + 1)) back ∧
          ∀ number : Nat, ((toString number).toList ++ back.toList).takeWhile Char.isDigit =
            (toString number).toList := by
  have htext : (Statement.delete .sample).textAt .postgres .resolved =
      .ok "DELETE FROM users WHERE (age = $1) AND (rank BETWEEN $2 AND $3)" := rfl
  obtain ⟨layout, -, hparameters, hapart⟩ := placeholders_apart (by decide) (by decide) htext
  exact ⟨layout, hparameters, hapart⟩

end Statement

end SqlText
