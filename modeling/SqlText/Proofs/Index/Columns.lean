import Mathlib.Data.List.Nodup
import SqlText.Proofs.Statement.Layout

/-!
# The columns of an index

An index is made column after column, and of the columns before only the names are kept.
That is enough: as long as nothing was reported, those columns belong to the table, and their
names tell them apart.  So the names that were seen are those of the columns in front of the
rest, none of which is misplaced, and this is what a step keeps (`checkColumns_cases`).

```text
index of users     users.id   users.email   orders.total   users.id
                                            other table    name of an earlier column
reported                                    this one
```

A list with no misplaced column is one in which every column belongs to the table and none
appears twice (`fitsIndex_iff`).
-/

namespace SqlText.Index

variable {index : String} {table : Table}

/-- The column at a position belongs to another table or has the name of an earlier column. -/
def Misplaced (table : Table) (columns : List Column) (position : Nat) : Prop :=
  ∃ column, columns[position]? = some column ∧
    (column.table ≠ table.name ∨ column.name ∈ (columns.take position).map Column.name)

/-- A column stands at a position and is misplaced there, and none before it is. -/
structure FirstMisplaced (table : Table) (columns : List Column) (position : Nat)
    (column : Column) : Prop where
  getElem? : columns[position]? = some column
  misplaced : Misplaced table columns position
  not_misplaced : ∀ earlier < position, ¬ Misplaced table columns earlier

/-- What is reported about a misplaced column.  That it belongs to another table goes before
its name. -/
def misplacedFault (index : String) (table : Table) (column : Column) : Fault :=
  if column.table ≠ table.name then
    .indexStrayColumn index column.qualifiedName table.name
  else .indexRepeatedColumn index column.name

section Misplaced

variable {column : Column}

theorem misplacedFault_of_table_ne (h : column.table ≠ table.name) :
    misplacedFault index table column =
      .indexStrayColumn index column.qualifiedName table.name :=
  if_pos h

theorem misplacedFault_of_table_eq (h : column.table = table.name) :
    misplacedFault index table column = .indexRepeatedColumn index column.name :=
  if_neg (not_not.mpr h)

/-- A misplaced column is a mistake in what was described. -/
theorem kind_misplacedFault : (misplacedFault index table column).kind = .malformed := by
  by_cases htable : column.table = table.name
  · rw [misplacedFault_of_table_eq htable]
    rfl
  · rw [misplacedFault_of_table_ne htable]
    rfl

end Misplaced

/-! ## One column after the other -/

theorem misplaced_append_cons {before rest : List Column} {column : Column} :
    Misplaced table (before ++ column :: rest) before.length ↔
      column.table ≠ table.name ∨ column.name ∈ before.map Column.name := by
  simp [Misplaced]

/-- Behind columns of which none is misplaced, and whose names were seen, either the check
finds no misplaced column, and there is none, or it reports the first one. -/
theorem checkColumns_cases {before columns : List Column} {seen : List String}
    (hseen : ∀ name, name ∈ seen ↔ name ∈ before.map Column.name)
    (hbefore : ∀ position < before.length, ¬ Misplaced table (before ++ columns) position) :
    (checkColumns index table seen columns = .ok () ∧
        ∀ position, ¬ Misplaced table (before ++ columns) position) ∨
      ∃ position column, FirstMisplaced table (before ++ columns) position column ∧
        checkColumns index table seen columns = .error (misplacedFault index table column) := by
  induction columns generalizing before seen with
  | nil =>
      refine Or.inl ⟨rfl, fun position hposition => ?_⟩
      obtain ⟨column, hget, -⟩ := id hposition
      have hlt := (List.getElem?_eq_some_iff.mp hget).1
      rw [List.append_nil] at hlt
      exact hbefore position hlt hposition
  | cons column rest ih =>
      have hfirst : Misplaced table (before ++ column :: rest) before.length →
          FirstMisplaced table (before ++ column :: rest) before.length column :=
        fun h => ⟨by simp, h, hbefore⟩
      rw [misplaced_append_cons, ← hseen] at hfirst
      rw [checkColumns]
      split
      case isTrue htable =>
        refine Or.inr ⟨_, _, hfirst (Or.inl htable), ?_⟩
        rw [misplacedFault_of_table_ne htable]
      case isFalse htable =>
        split
        case isTrue hname =>
          refine Or.inr ⟨_, _, hfirst (Or.inr hname), ?_⟩
          rw [misplacedFault_of_table_eq (not_not.mp htable)]
        case isFalse hname =>
          -- the column joins those before the rest
          have hsplit : before ++ column :: rest = (before ++ [column]) ++ rest := by simp
          have hthis : ¬ Misplaced table (before ++ column :: rest) before.length := by
            rw [misplaced_append_cons, ← hseen]
            exact not_or.mpr ⟨htable, hname⟩
          have hnames : ∀ name, name ∈ column.name :: seen ↔
              name ∈ (before ++ [column]).map Column.name := by
            intro name
            simp [hseen, or_comm]
          rw [hsplit] at hbefore hthis ⊢
          refine ih hnames fun position hposition => ?_
          rw [List.length_append, List.length_singleton] at hposition
          rcases Nat.lt_succ_iff_lt_or_eq.mp hposition with hlt | rfl
          · exact hbefore position hlt
          · exact hthis

/-! ## Lists without misplaced columns -/

theorem fitsIndex_iff {columns : List Column} :
    FitsIndex table columns ↔
      columns ≠ [] ∧ ∀ position, ¬ Misplaced table columns position := by
  refine and_congr_right fun _ => ?_
  constructor
  · rintro ⟨htable, hnodup⟩ position ⟨column, hget, hother | hname⟩
    · exact hother (htable column (List.mem_of_getElem? hget))
    · -- in one table a column is known by its name, so it would appear twice
      obtain ⟨earlier, hearlier, hsame⟩ := List.mem_map.mp hname
      have hcolumn : earlier = column := by
        have howner := htable earlier (List.mem_of_mem_take hearlier)
        rw [← htable column (List.mem_of_getElem? hget)] at howner
        cases earlier
        cases column
        simp_all
      obtain ⟨place, hplace, hat⟩ := List.mem_take_iff_getElem.mp hearlier
      obtain ⟨hlt, hthis⟩ := List.getElem?_eq_some_iff.mp hget
      have hequal : place = position :=
        (hnodup.getElem_inj_iff).mp (hat.trans (hcolumn.trans hthis.symm))
      omega
  · intro hnone
    constructor
    · intro column hcolumn
      obtain ⟨position, hget⟩ := List.mem_iff_getElem?.mp hcolumn
      by_contra htable
      exact hnone position ⟨column, hget, Or.inl htable⟩
    · refine List.nodup_iff_getElem?_ne_getElem?.mpr fun earlier position hlt hlength hsame => ?_
      have hget : columns[position]? = some columns[position] := List.getElem?_eq_getElem hlength
      have hmem : columns[position] ∈ columns.take position := by
        rw [List.mem_take_iff_getElem]
        refine ⟨earlier, by omega, ?_⟩
        exact (List.getElem?_eq_some_iff.mp (hsame.trans hget)).2
      exact hnone position ⟨_, hget, Or.inr (List.mem_map_of_mem hmem)⟩

/-! ## Making and creating an index -/

/-- Either the columns fit, or a first one of them is misplaced and reported, or there are no
columns. -/
theorem of_cases (name : String) (table : Table) (columns : List Column) (unique : Bool) :
    (FitsIndex table columns ∧
        Index.of name table columns unique = .ok ⟨name, table, columns, unique⟩) ∨
      (columns = [] ∧ Index.of name table columns unique = .error (.indexWithoutColumns name)) ∨
      ∃ position column, FirstMisplaced table columns position column ∧
        Index.of name table columns unique = .error (misplacedFault name table column) := by
  cases columns with
  | nil => exact Or.inr (Or.inl ⟨rfl, rfl⟩)
  | cons first rest =>
      have hof : Index.of name table (first :: rest) unique =
          (checkColumns name table [] (first :: rest)).map
            fun _ => ⟨name, table, first :: rest, unique⟩ := by
        rw [Index.of]
        cases checkColumns name table [] (first :: rest) <;> rfl
      have hcheck :=
        @checkColumns_cases name table [] (first :: rest) [] (by simp) (by simp)
      rw [List.nil_append] at hcheck
      rcases hcheck with ⟨hok, hnone⟩ | ⟨position, column, hfirst, hfault⟩
      · refine Or.inl ⟨fitsIndex_iff.mpr ⟨List.cons_ne_nil _ _, hnone⟩, ?_⟩
        rw [hof, hok]
        rfl
      · refine Or.inr (Or.inr ⟨position, column, hfirst, ?_⟩)
        rw [hof, hfault]
        rfl

theorem FirstMisplaced.not_fitsIndex {columns : List Column} {position : Nat} {column : Column}
    (h : FirstMisplaced table columns position column) : ¬ FitsIndex table columns :=
  fun hfits => (fitsIndex_iff.mp hfits).2 position h.misplaced

/-- Creating an index lists its columns in their order, with commas between. -/
theorem render_createIndex (index : Index) {slots : Slots} (h : slots.problems = [])
    (dialect : Dialect) :
    (Statement.createIndex ⟨index, slots⟩).render dialect =
      .ok (.text ("CREATE " ++ (if index.unique then "UNIQUE " else "") ++ "INDEX " ++
        dialect.identifier index.name ++ " ON " ++ index.table.text dialect ++ " (" ++
        ", ".intercalate (index.columns.map fun column => column.text dialect) ++ ")") ::
          slots.renderSuffix) := by
  rw [Statement.render, IndexStatement.renderCreation, Slots.check_eq_ok_iff.mpr h]
  rfl

/-- An index is made exactly of columns that fit.  It keeps them in their order, and creating
it lists them in this order, each once.  Columns that do not fit are a mistake in what was
described: there are none, or the first of them that is misplaced is reported, as one of
another table if it is that. -/
theorem of_reports_first (name : String) (table : Table) (columns : List Column)
    (unique : Bool) :
    ((∃ index, Index.of name table columns unique = .ok index) ↔ FitsIndex table columns) ∧
      (∀ index, Index.of name table columns unique = .ok index →
        index = ⟨name, table, columns, unique⟩ ∧ (∀ column ∈ columns, columns.count column = 1) ∧
          ∀ (slots : Slots) (dialect : Dialect), slots.problems = [] →
            (Statement.createIndex ⟨index, slots⟩).render dialect =
              .ok (.text ("CREATE " ++ (if unique then "UNIQUE " else "") ++ "INDEX " ++
                dialect.identifier name ++ " ON " ++ table.text dialect ++ " (" ++
                ", ".intercalate (columns.map fun column => column.text dialect) ++ ")") ::
                  slots.renderSuffix)) ∧
      (columns = [] →
        Index.of name table columns unique = .error (.indexWithoutColumns name)) ∧
      (columns ≠ [] → ∀ fault, Index.of name table columns unique = .error fault →
        fault.kind = .malformed ∧ ∃ position column,
          FirstMisplaced table columns position column ∧
            (column.table ≠ table.name → fault.message =
              "index " ++ name ++ " column " ++ column.qualifiedName ++
                " does not belong to table " ++ table.name) ∧
            (column.table = table.name → fault.message =
              "index " ++ name ++ " repeats column " ++ column.name)) := by
  rcases of_cases name table columns unique with
    ⟨hfits, hof⟩ | ⟨rfl, hof⟩ | ⟨position, column, hfirst, hof⟩
  · refine ⟨iff_of_true ⟨_, hof⟩ hfits, fun index hindex => ?_, fun hnil => ?_, fun _ => ?_⟩
    · rw [hof] at hindex
      obtain rfl := Except.ok.inj hindex
      refine ⟨rfl, fun column hcolumn => List.count_eq_one_of_mem hfits.2.2 hcolumn, ?_⟩
      exact fun slots dialect hslots => render_createIndex _ hslots dialect
    · exact absurd hnil hfits.1
    · rw [hof]
      nofun
  · refine ⟨iff_of_false ?_ fun hfits => hfits.1 rfl, ?_, fun _ => hof, fun hne => absurd rfl hne⟩
    · rw [hof]
      nofun
    · rw [hof]
      nofun
  · have hne : columns ≠ [] := by
      rintro rfl
      cases hfirst.getElem?
    refine ⟨iff_of_false ?_ hfirst.not_fitsIndex, ?_, fun hnil => absurd hnil hne, ?_⟩
    · rw [hof]
      nofun
    · rw [hof]
      nofun
    · intro _ fault hfault
      rw [hof] at hfault
      obtain rfl := Except.error.inj hfault
      refine ⟨kind_misplacedFault, position, column, hfirst, fun htable => ?_, fun htable => ?_⟩
      · rw [misplacedFault_of_table_ne htable]
        rfl
      · rw [misplacedFault_of_table_eq htable]
        rfl

/-- The second column belongs to another table and has the name of the first one, and the last
one is there twice. -/
def mixedColumns : List Column :=
  [⟨"users", "id"⟩, ⟨"orders", "id"⟩, ⟨"users", "id"⟩]

theorem of_reports_first_mixedColumns :
    (∃ index, Index.of "account" ⟨"users"⟩ [⟨"users", "mail"⟩, ⟨"users", "id"⟩] true = .ok index) ∧
      (¬ ∃ index, Index.of "account" ⟨"users"⟩ mixedColumns true = .ok index) ∧
      ∃ fault, Index.of "account" ⟨"users"⟩ mixedColumns true = .error fault ∧
        fault.message = "index account column orders.id does not belong to table users" ∧
        ∃ position column, FirstMisplaced ⟨"users"⟩ mixedColumns position column := by
  have hfits : FitsIndex ⟨"users"⟩ [⟨"users", "mail"⟩, ⟨"users", "id"⟩] :=
    ⟨by decide, by decide, by decide⟩
  have hmixed : ¬ FitsIndex ⟨"users"⟩ mixedColumns := fun h => absurd h.2.1 (by decide)
  have hfault : Index.of "account" ⟨"users"⟩ mixedColumns true =
      .error (.indexStrayColumn "account" "orders.id" "users") := rfl
  obtain ⟨hiff, -, -, -⟩ :=
    of_reports_first "account" ⟨"users"⟩ [⟨"users", "mail"⟩, ⟨"users", "id"⟩] true
  obtain ⟨hiff', -, -, hfirst⟩ := of_reports_first "account" ⟨"users"⟩ mixedColumns true
  obtain ⟨-, position, column, hposition, -⟩ := hfirst (by decide) _ hfault
  exact ⟨hiff.mpr hfits, fun h => hmixed (hiff'.mp h), _, hfault, rfl, position, column, hposition⟩

end SqlText.Index
