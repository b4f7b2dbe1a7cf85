import Mathlib.Data.Finset.Card
import SqlText.ForeignKey
import SqlText.Proofs.Statement.Sequence
import SqlText.Proofs.Text.Words

/-!
# When foreign keys are equal

Foreign keys are compared by two sets of names, kept in ascending order.  Two ascending
lists are equal as soon as they have the same members, so what counts is which names there
are (`nameSet_eq_iff`).  A name tells its column apart where the tables are known to be the
same, or where no table has a dot in its name: the first dot of the name is then the one
that was put behind the table (`Column.qualifiedName_inj`).

A foreign key is made from pairs of columns.  Since the two sides are compared apart from
each other, only the columns on either side of the pairs matter
(`exists_ofPairs_of_sides`).
-/

namespace SqlText

/-! ## Names of columns -/

/-- Columns of one table are told apart by their names. -/
theorem Column.eq_of_qualifiedName_eq {column other : Column} (htable : column.table = other.table)
    (hname : column.qualifiedName = other.qualifiedName) : column = other := by
  have hchars := congrArg String.toList hname
  simp only [qualifiedName, String.toList_append, htable] at hchars
  have hrest := List.append_cancel_left hchars
  cases column
  cases other
  simp_all [String.toList_inj]

/-- Columns of tables without a dot in their names are told apart by their names. -/
theorem Column.qualifiedName_inj {column other : Column} (hcolumn : '.' ∉ column.table.toList)
    (hother : '.' ∉ other.table.toList) :
    column.qualifiedName = other.qualifiedName ↔ column = other := by
  constructor
  · intro hname
    have hchars : column.table.toList ++ '.' :: column.name.toList =
        other.table.toList ++ '.' :: other.name.toList := by
      simpa [qualifiedName] using congrArg String.toList hname
    -- a name begins with all that stands before its first dot
    have hdotless : ∀ {chars : List Char}, '.' ∉ chars → ∀ c ∈ chars, (c != '.') = true := by
      intro chars hchars c hc
      exact bne_iff_ne.mpr fun heq => hchars (heq ▸ hc)
    have htable := (Text.eq_of_append_class (hdotless hcolumn) (hdotless hother) (by simp)
      (by simp) hchars).1
    exact eq_of_qualifiedName_eq (String.toList_inj.mp htable) hname
  · rintro rfl
    rfl

namespace ForeignKey

/-! ## Sets of names -/

theorem mem_insertName {name other : String} {names : List String} :
    other ∈ insertName name names ↔ other = name ∨ other ∈ names := by
  induction names with
  | nil => simp [insertName]
  | cons first rest ih =>
      unfold insertName
      split
      · exact List.mem_cons
      · split
        · rename_i heq
          simp [heq]
        · rw [List.mem_cons, ih, List.mem_cons, or_left_comm]

theorem pairwise_insertName (name : String) {names : List String}
    (h : names.Pairwise (· < ·)) : (insertName name names).Pairwise (· < ·) := by
  induction names with
  | nil => exact List.pairwise_singleton _ _
  | cons first rest ih =>
      obtain ⟨hfirst, hrest⟩ := List.pairwise_cons.mp h
      unfold insertName
      split
      · rename_i hlt
        refine List.pairwise_cons.mpr ⟨?_, h⟩
        intro other hother
        rcases List.mem_cons.mp hother with rfl | hother
        · exact hlt
        · exact String.lt_trans hlt (hfirst other hother)
      · split
        · exact h
        · rename_i hnlt hne
          refine List.pairwise_cons.mpr ⟨?_, ih hrest⟩
          intro other hother
          rcases mem_insertName.mp hother with rfl | hother
          · exact String.not_le.mp fun hle => hne (String.le_antisymm hle (String.not_lt.mp hnlt))
          · exact hfirst other hother

theorem mem_nameSet {columns : List Column} {name : String} :
    name ∈ nameSet columns ↔ name ∈ columns.map Column.qualifiedName := by
  induction columns with
  | nil => simp [nameSet]
  | cons column rest ih => rw [List.map_cons, List.mem_cons, ← ih, ← mem_insertName]; rfl

theorem pairwise_nameSet (columns : List Column) : (nameSet columns).Pairwise (· < ·) := by
  induction columns with
  | nil => exact List.Pairwise.nil
  | cons column rest ih => exact pairwise_insertName _ ih

/-- Sets of names are equal if they have the same members. -/
theorem nameSet_eq_iff {columns others : List Column} :
    nameSet columns = nameSet others ↔
      ∀ name, name ∈ columns.map Column.qualifiedName ↔ name ∈ others.map Column.qualifiedName := by
  constructor
  · intro heq name
    rw [← mem_nameSet, heq, mem_nameSet]
  · intro h
    have hnodup : ∀ columns, (nameSet columns).Nodup := by
      intro columns
      refine (pairwise_nameSet columns).imp ?_
      rintro name _ hlt rfl
      exact String.lt_irrefl name hlt
    have hperm : (nameSet columns).Perm (nameSet others) := by
      refine (List.perm_ext_iff_of_nodup (hnodup _) (hnodup _)).mpr fun name => ?_
      rw [mem_nameSet, mem_nameSet, h name]
    refine hperm.eq_of_pairwise ?_ (pairwise_nameSet _) (pairwise_nameSet _)
    intro name other _ _ hlt hgt
    exact absurd (String.lt_trans hlt hgt) (String.lt_irrefl name)

/-- Columns whose names tell them apart have equal sets of names if they are the same. -/
theorem nameSet_eq_iff_of_inj {columns others : List Column}
    (hinj : ∀ column ∈ columns, ∀ other ∈ others,
      column.qualifiedName = other.qualifiedName → column = other) :
    nameSet columns = nameSet others ↔ columns.toFinset = others.toFinset := by
  rw [nameSet_eq_iff, Finset.ext_iff]
  simp only [List.mem_toFinset]
  constructor
  · intro h column
    constructor
    · intro hcolumn
      obtain ⟨other, hother, hname⟩ :=
        List.mem_map.mp ((h column.qualifiedName).mp (List.mem_map_of_mem hcolumn))
      rwa [hinj column hcolumn other hother hname.symm]
    · intro hcolumn
      obtain ⟨other, hother, hname⟩ :=
        List.mem_map.mp ((h column.qualifiedName).mpr (List.mem_map_of_mem hcolumn))
      rwa [← hinj other hother column hcolumn hname]
  · intro h name
    simp only [List.mem_map, h]

/-! ## Equality -/

variable {key other : ForeignKey}

theorem beq_iff : (key == other) = true ↔
    nameSet key.keys = nameSet other.keys ∧
      nameSet key.references = nameSet other.references := by
  show (key.identity == other.identity) = true ↔ _
  rw [beq_iff_eq]
  exact Prod.mk.injEq .. ▸ Iff.rfl

theorem beq_equivalence : Equivalence fun key other : ForeignKey => (key == other) = true where
  refl _ := beq_iff.mpr ⟨rfl, rfl⟩
  symm h := beq_iff.mpr ⟨(beq_iff.mp h).1.symm, (beq_iff.mp h).2.symm⟩
  trans h h' := beq_iff.mpr
    ⟨(beq_iff.mp h).1.trans (beq_iff.mp h').1, (beq_iff.mp h).2.trans (beq_iff.mp h').2⟩

instance : EquivBEq ForeignKey where
  rfl := beq_equivalence.refl _
  symm := beq_equivalence.symm
  trans := beq_equivalence.trans

/-- Equal foreign keys feed the same to a hash function. -/
theorem hashInputs_eq_of_beq (h : (key == other) = true) : key.hashInputs = other.hashInputs := by
  have hidentity : key.identity = other.identity := beq_iff_eq.mp h
  rw [hashInputs, hashInputs, hidentity]

/-- No table of the foreign key has a dot in its name. -/
def Undotted (key : ForeignKey) : Prop :=
  (∀ column ∈ key.keys, '.' ∉ column.table.toList) ∧
    ∀ column ∈ key.references, '.' ∉ column.table.toList

instance (key : ForeignKey) : Decidable key.Undotted :=
  inferInstanceAs (Decidable (_ ∧ _))

/-- Where names tell the columns of two foreign keys apart, these are equal if they have the
same key columns and the same reference columns. -/
theorem beq_iff_of_inj
    (hkeys : ∀ column ∈ key.keys, ∀ counterpart ∈ other.keys,
      column.qualifiedName = counterpart.qualifiedName → column = counterpart)
    (hreferences : ∀ column ∈ key.references, ∀ counterpart ∈ other.references,
      column.qualifiedName = counterpart.qualifiedName → column = counterpart) :
    (key == other) = true ↔ key.keys.toFinset = other.keys.toFinset ∧
      key.references.toFinset = other.references.toFinset := by
  rw [beq_iff, nameSet_eq_iff_of_inj hkeys, nameSet_eq_iff_of_inj hreferences]

theorem beq_iff_toFinset_eq (hkey : key.Undotted) (hother : other.Undotted) :
    (key == other) = true ↔ key.keys.toFinset = other.keys.toFinset ∧
      key.references.toFinset = other.references.toFinset := by
  apply beq_iff_of_inj
  · intro column hcolumn counterpart hcounterpart
    exact (Column.qualifiedName_inj (hkey.1 column hcolumn)
      (hother.1 counterpart hcounterpart)).mp
  · intro column hcolumn counterpart hcounterpart
    exact (Column.qualifiedName_inj (hkey.2 column hcolumn)
      (hother.2 counterpart hcounterpart)).mp

/-! ## Foreign keys that have been made -/

/-- The checks of a foreign key, one after the other. -/
theorem checkForeignKey_eq (keys references : List Column) (owner : Table) :
    checkForeignKey keys references owner =
      if keys = [] ∨ references = [] then .error .foreignKeyWithoutColumns
      else if keys.length ≠ references.length then
        .error (.foreignKeyLengths keys.length references.length)
      else match keys.find? fun column => column.table != owner.name with
        | some stray => .error (.foreignKeyStrayColumn stray.qualifiedName owner.name)
        | none =>
            if references.any fun column =>
                references.head?.any fun first => column.table != first.table then
              .error .foreignKeyScattered
            else .ok () := by
  unfold checkForeignKey
  by_cases hempty : keys = [] ∨ references = []
  · rw [if_pos hempty, if_pos (by simpa using hempty)]
    rfl
  · rw [if_neg hempty, if_neg (by simpa using hempty)]
    by_cases hlength : keys.length ≠ references.length
    · rw [if_pos hlength]
      simp only [if_pos hlength]
      rfl
    · rw [if_neg hlength]
      simp only [if_neg hlength]
      cases keys.find? fun column => column.table != owner.name with
      | some stray => rfl
      | none =>
          dsimp only
          split <;> rfl

/-- Columns are of one table if each is of the table of the first. -/
theorem any_head?_eq_false_iff {columns : List Column} :
    (columns.any fun column => columns.head?.any fun first => column.table != first.table) = false ↔
      ∃ target, ∀ column ∈ columns, column.table = target := by
  cases columns with
  | nil => simp
  | cons first rest =>
      simp only [List.any_eq_false, List.head?_cons, Option.any_some, bne_iff_ne, not_not]
      constructor
      · intro h
        exact ⟨first.table, h⟩
      · rintro ⟨target, h⟩ column hcolumn
        rw [h column hcolumn, h first (List.mem_cons_self ..)]

theorem checkForeignKey_eq_ok_iff {keys references : List Column} {owner : Table} :
    checkForeignKey keys references owner = .ok () ↔
      keys ≠ [] ∧ keys.length = references.length ∧ (∀ column ∈ keys, column.table = owner.name) ∧
        ∃ target, ∀ column ∈ references, column.table = target := by
  rw [checkForeignKey_eq, ← any_head?_eq_false_iff]
  by_cases hempty : keys = [] ∨ references = []
  · rw [if_pos hempty]
    refine iff_of_false nofun ?_
    rintro ⟨hkeys, hlength, -⟩
    apply hkeys
    rcases hempty with hempty | hempty
    · exact hempty
    · exact List.length_eq_zero_iff.mp (by rw [hlength, hempty, List.length_nil])
  · rw [if_neg hempty]
    obtain ⟨hkeys, -⟩ := not_or.mp hempty
    by_cases hlength : keys.length = references.length
    · rw [if_neg (not_not.mpr hlength)]
      cases hstray : keys.find? fun column => column.table != owner.name with
      | some stray =>
          refine iff_of_false nofun ?_
          rintro ⟨-, -, howner, -⟩
          have hne := List.find?_some hstray
          rw [howner stray (List.mem_of_find?_eq_some hstray)] at hne
          simp at hne
      | none =>
          have howner : ∀ column ∈ keys, column.table = owner.name := by
            simpa using List.find?_eq_none.mp hstray
          rw [and_iff_right hkeys, and_iff_right hlength, and_iff_right howner]
          cases references.any _ <;> simp
    · rw [if_pos hlength]
      exact iff_of_false nofun fun h => hlength h.2.1

/-- The foreign key has been made for a table from columns that passed the check. -/
def MadeFor (key : ForeignKey) (owner : Table) : Prop :=
  ∃ keys references, ForeignKey.of keys references owner = .ok key

theorem of_eq_ok_iff {keys references : List Column} {owner : Table} :
    ForeignKey.of keys references owner = .ok key ↔
      key = ⟨keys, references⟩ ∧ checkForeignKey keys references owner = .ok () := by
  unfold ForeignKey.of
  rw [bind_eq_ok]
  constructor
  · rintro ⟨⟨⟩, hcheck, hkey⟩
    exact ⟨(pure_eq_ok.mp hkey).symm, hcheck⟩
  · rintro ⟨rfl, hcheck⟩
    exact ⟨(), hcheck, rfl⟩

theorem madeFor_iff {owner : Table} :
    key.MadeFor owner ↔
      key.keys ≠ [] ∧ key.keys.length = key.references.length ∧
        (∀ column ∈ key.keys, column.table = owner.name) ∧
        ∃ target, ∀ column ∈ key.references, column.table = target := by
  rw [← checkForeignKey_eq_ok_iff]
  constructor
  · rintro ⟨keys, references, hkey⟩
    obtain ⟨rfl, hcheck⟩ := of_eq_ok_iff.mp hkey
    exact hcheck
  · intro hcheck
    exact ⟨key.keys, key.references, of_eq_ok_iff.mpr ⟨rfl, hcheck⟩⟩

/-- All key columns are of the table that the foreign key has been made for. -/
theorem MadeFor.table_eq {owner : Table} (h : key.MadeFor owner) {column : Column}
    (hcolumn : column ∈ key.keys) : column.table = owner.name :=
  (madeFor_iff.mp h).2.2.1 column hcolumn

/-! ## Pairs -/

/-- The key columns, each with the column that it refers to. -/
def pairs (key : ForeignKey) : List (Column × Column) :=
  key.keys.zip key.references

/-- The foreign key of a table with the given pairs of columns, if they fit. -/
def ofPairs (pairs : List (Column × Column)) (owner : Table) : Except Fault ForeignKey :=
  ForeignKey.of (pairs.map Prod.fst) (pairs.map Prod.snd) owner

section

variable {pairs others : List (Column × Column)} {owner : Table}

theorem ofPairs_eq_ok_iff :
    ofPairs pairs owner = .ok key ↔ key = ⟨pairs.map Prod.fst, pairs.map Prod.snd⟩ ∧
      pairs ≠ [] ∧ (∀ column ∈ pairs.map Prod.fst, column.table = owner.name) ∧
      ∃ target, ∀ column ∈ pairs.map Prod.snd, column.table = target := by
  rw [ofPairs, of_eq_ok_iff, checkForeignKey_eq_ok_iff, ne_eq, List.map_eq_nil_iff,
    List.length_map, List.length_map, eq_self, true_and]

/-- Pairs with the same columns on either side make equal foreign keys. -/
theorem exists_ofPairs_of_sides
    (hfirst : ∀ column, column ∈ pairs.map Prod.fst ↔ column ∈ others.map Prod.fst)
    (hsecond : ∀ column, column ∈ pairs.map Prod.snd ↔ column ∈ others.map Prod.snd)
    (hkey : ofPairs pairs owner = .ok key) :
    ∃ other, ofPairs others owner = .ok other ∧ (key == other) = true := by
  obtain ⟨rfl, hne, howner, target, htarget⟩ := ofPairs_eq_ok_iff.mp hkey
  have hothers : others ≠ [] := by
    rintro rfl
    obtain ⟨pair, hpair⟩ := List.exists_mem_of_ne_nil pairs hne
    exact absurd ((hfirst pair.1).mp (List.mem_map_of_mem hpair)) List.not_mem_nil
  refine ⟨_, ofPairs_eq_ok_iff.mpr ⟨rfl, hothers, ?_, target, ?_⟩, beq_iff.mpr ⟨?_, ?_⟩⟩
  · exact fun column hcolumn => howner column ((hfirst column).mpr hcolumn)
  · exact fun column hcolumn => htarget column ((hsecond column).mpr hcolumn)
  · apply nameSet_eq_iff.mpr
    intro name
    simp only [List.mem_map (f := Column.qualifiedName), hfirst]
  · apply nameSet_eq_iff.mpr
    intro name
    simp only [List.mem_map (f := Column.qualifiedName), hsecond]

/-- The order of the pairs does not matter, nor how often each is there. -/
theorem exists_ofPairs (h : ∀ pair, pair ∈ pairs ↔ pair ∈ others)
    (hkey : ofPairs pairs owner = .ok key) :
    ∃ other, ofPairs others owner = .ok other ∧ (key == other) = true := by
  apply exists_ofPairs_of_sides _ _ hkey
  · intro column
    simp only [List.mem_map, h]
  · intro column
    simp only [List.mem_map, h]

end

theorem MadeFor.map_fst_pairs {owner : Table} (h : key.MadeFor owner) :
    key.pairs.map Prod.fst = key.keys :=
  List.map_fst_zip (madeFor_iff.mp h).2.1.le

theorem MadeFor.map_snd_pairs {owner : Table} (h : key.MadeFor owner) :
    key.pairs.map Prod.snd = key.references :=
  List.map_snd_zip (madeFor_iff.mp h).2.1.ge

/-- A foreign key is made from its pairs. -/
theorem MadeFor.ofPairs_pairs {owner : Table} (h : key.MadeFor owner) :
    ofPairs key.pairs owner = .ok key := by
  rw [ofPairs, h.map_fst_pairs, h.map_snd_pairs, of_eq_ok_iff]
  exact ⟨rfl, checkForeignKey_eq_ok_iff.mpr (madeFor_iff.mp h)⟩

end ForeignKey

end SqlText
