import Mathlib.Data.Finset.Prod
import SqlText.Proofs.ForeignKey.HashSet

/-!
# What equal foreign keys have in common

A foreign key states which column refers to which, but it is compared by its two sets of
columns, and these do not say how the columns are paired.  Between two tables that are
known, equal foreign keys have the same columns on either side.  If there is a single column
on one of the sides, each column of the other side can only be paired with that one, so the
pairs are the same as well (`eq_of_sides_eq`).  If there are two columns on either side,
there is always another way to pair them that uses the same columns: all pairs there are, or
all but one (`exists_ne_of_sides`).
-/

namespace SqlText.ForeignKey

/-! ## Sets of pairs and their sides -/

section

variable {α β : Type} [DecidableEq α] [DecidableEq β] {pairs others : Finset (α × β)}

theorem subset_of_sides_eq (hfirst : pairs.image Prod.fst = others.image Prod.fst)
    (hsecond : pairs.image Prod.snd = others.image Prod.snd)
    (hsingle : (pairs.image Prod.fst).card = 1 ∨ (pairs.image Prod.snd).card = 1) :
    pairs ⊆ others := by
  intro pair hpair
  have hfst := Finset.mem_image_of_mem Prod.fst hpair
  have hsnd := Finset.mem_image_of_mem Prod.snd hpair
  rw [hfirst] at hfst hsingle
  rw [hsecond] at hsnd hsingle
  rcases hsingle with hsingle | hsingle
  · obtain ⟨other, hother, hsame⟩ := Finset.mem_image.mp hsnd
    have heq : other.1 = pair.1 :=
      Finset.card_le_one.mp hsingle.le _ (Finset.mem_image_of_mem _ hother) _ hfst
    rwa [← Prod.ext heq hsame]
  · obtain ⟨other, hother, hsame⟩ := Finset.mem_image.mp hfst
    have heq : other.2 = pair.2 :=
      Finset.card_le_one.mp hsingle.le _ (Finset.mem_image_of_mem _ hother) _ hsnd
    rwa [← Prod.ext hsame heq]

/-- Where one side has a single member, there is only one way to pair. -/
theorem eq_of_sides_eq (hfirst : pairs.image Prod.fst = others.image Prod.fst)
    (hsecond : pairs.image Prod.snd = others.image Prod.snd)
    (hsingle : (pairs.image Prod.fst).card = 1 ∨ (pairs.image Prod.snd).card = 1) :
    pairs = others := by
  apply Finset.Subset.antisymm (subset_of_sides_eq hfirst hsecond hsingle)
  apply subset_of_sides_eq hfirst.symm hsecond.symm
  rwa [← hfirst, ← hsecond]

/-- Where both sides have two members, there is more than one way to pair. -/
theorem exists_ne_of_sides (hfirst : 1 < (pairs.image Prod.fst).card)
    (hsecond : 1 < (pairs.image Prod.snd).card) :
    ∃ others, others ≠ pairs ∧ others.image Prod.fst = pairs.image Prod.fst ∧
      others.image Prod.snd = pairs.image Prod.snd := by
  obtain ⟨first, hfirstMem⟩ := Finset.card_pos.mp (Nat.zero_lt_of_lt hfirst)
  obtain ⟨second, hsecondMem⟩ := Finset.card_pos.mp (Nat.zero_lt_of_lt hsecond)
  by_cases hall : pairs = pairs.image Prod.fst ×ˢ pairs.image Prod.snd
  · -- every column is paired with every other one, so that one pair can be spared
    refine ⟨pairs.erase (first, second), ?_, ?_, ?_⟩
    · apply Finset.erase_ne_self.mpr
      rw [hall]
      exact Finset.mem_product.mpr ⟨hfirstMem, hsecondMem⟩
    · apply Finset.Subset.antisymm (Finset.image_subset_image (Finset.erase_subset _ _))
      intro column hcolumn
      obtain ⟨partner, hpartner, hne⟩ := Finset.exists_mem_ne hsecond second
      refine Finset.mem_image.mpr ⟨(column, partner), ?_, rfl⟩
      refine Finset.mem_erase.mpr ⟨fun heq => hne (Prod.mk.inj heq).2, ?_⟩
      rw [hall]
      exact Finset.mem_product.mpr ⟨hcolumn, hpartner⟩
    · apply Finset.Subset.antisymm (Finset.image_subset_image (Finset.erase_subset _ _))
      intro column hcolumn
      obtain ⟨partner, hpartner, hne⟩ := Finset.exists_mem_ne hfirst first
      refine Finset.mem_image.mpr ⟨(partner, column), ?_, rfl⟩
      refine Finset.mem_erase.mpr ⟨fun heq => hne (Prod.mk.inj heq).1, ?_⟩
      rw [hall]
      exact Finset.mem_product.mpr ⟨hpartner, hcolumn⟩
  · refine ⟨pairs.image Prod.fst ×ˢ pairs.image Prod.snd, fun h => hall h.symm, ?_, ?_⟩
    · exact Finset.product_image_fst ⟨second, hsecondMem⟩
    · exact Finset.product_image_snd ⟨first, hfirstMem⟩

end

/-! ## Foreign keys between two tables -/

variable {key other : ForeignKey} {owner : Table}

/-- What a foreign key states: which column refers to which. -/
def relation (key : ForeignKey) : Finset (Column × Column) :=
  key.pairs.toFinset

/-- A side of the foreign key is a single column. -/
def OneSided (key : ForeignKey) : Prop :=
  key.keys.toFinset.card = 1 ∨ key.references.toFinset.card = 1

/-- Both foreign keys have been made for one table, and they refer to one table. -/
def SameTables (key other : ForeignKey) : Prop :=
  ∃ owner, key.MadeFor owner ∧ other.MadeFor owner ∧ key.referenceTable = other.referenceTable

namespace MadeFor

theorem image_fst_relation (h : key.MadeFor owner) :
    key.relation.image Prod.fst = key.keys.toFinset := by
  rw [← h.map_fst_pairs]
  ext column
  simp [relation]

theorem image_snd_relation (h : key.MadeFor owner) :
    key.relation.image Prod.snd = key.references.toFinset := by
  rw [← h.map_snd_pairs]
  ext column
  simp [relation]

/-- All reference columns are of the table that is referred to. -/
theorem table_eq_referenceTable (h : key.MadeFor owner) {column : Column}
    (hcolumn : column ∈ key.references) : column.table = key.referenceTable := by
  obtain ⟨-, -, -, target, htarget⟩ := madeFor_iff.mp h
  unfold referenceTable
  cases hreferences : key.references with
  | nil => simp [hreferences] at hcolumn
  | cons first rest =>
      have hfirst : first.table = target := htarget first (by simp [hreferences])
      rw [htarget column hcolumn, List.head?_cons, Option.map_some, Option.getD_some, hfirst]

end MadeFor

/-- Between the same tables, foreign keys are equal if they have the same columns on either
side. -/
theorem SameTables.beq_iff_toFinset_eq (h : key.SameTables other) :
    (key == other) = true ↔ key.keys.toFinset = other.keys.toFinset ∧
      key.references.toFinset = other.references.toFinset := by
  obtain ⟨owner, hkey, hother, htable⟩ := h
  apply beq_iff_of_inj
  · intro column hcolumn counterpart hcounterpart
    apply Column.eq_of_qualifiedName_eq
    rw [hkey.table_eq hcolumn, hother.table_eq hcounterpart]
  · intro column hcolumn counterpart hcounterpart
    apply Column.eq_of_qualifiedName_eq
    rw [hkey.table_eq_referenceTable hcolumn, hother.table_eq_referenceTable hcounterpart, htable]

/-- The foreign key of pairs states these pairs. -/
theorem relation_of_ofPairs {pairs : List (Column × Column)}
    (h : ofPairs pairs owner = .ok key) : key.relation = pairs.toFinset := by
  obtain ⟨rfl, -⟩ := ofPairs_eq_ok_iff.mp h
  unfold relation ForeignKey.pairs
  rw [List.zip_map', List.map_id'' fun _ => rfl]

namespace MadeFor

theorem exists_mem_keys (h : key.MadeFor owner) : ∃ column, column ∈ key.keys :=
  List.exists_mem_of_ne_nil _ (madeFor_iff.mp h).1

theorem exists_mem_references (h : key.MadeFor owner) : ∃ column, column ∈ key.references := by
  apply List.exists_mem_of_length_pos
  rw [← (madeFor_iff.mp h).2.1]
  exact List.length_pos_iff.mpr (madeFor_iff.mp h).1

/-- Foreign keys with a reference column in common refer to the same table. -/
theorem referenceTable_eq {otherOwner : Table} (h : key.MadeFor owner)
    (hother : other.MadeFor otherOwner)
    (hreferences : key.references.toFinset = other.references.toFinset) :
    key.referenceTable = other.referenceTable := by
  obtain ⟨column, hcolumn⟩ := h.exists_mem_references
  have hcommon : column ∈ other.references := by
    rwa [← List.mem_toFinset, ← hreferences, List.mem_toFinset]
  rw [← h.table_eq_referenceTable hcolumn, hother.table_eq_referenceTable hcommon]

/-- Without dots in the names of tables, equal foreign keys are between the same tables. -/
theorem sameTables {otherOwner : Table} (h : key.MadeFor owner)
    (hother : other.MadeFor otherOwner) (hundotted : key.Undotted) (hundotted' : other.Undotted)
    (hequal : (key == other) = true) : key.SameTables other := by
  obtain ⟨hkeys, hreferences⟩ := (beq_iff_toFinset_eq hundotted hundotted').mp hequal
  obtain ⟨column, hcolumn⟩ := h.exists_mem_keys
  have hcommon : column ∈ other.keys := by
    rwa [← List.mem_toFinset, ← hkeys, List.mem_toFinset]
  have hname : otherOwner.name = owner.name := by
    rw [← hother.table_eq hcommon, h.table_eq hcolumn]
  obtain rfl : otherOwner = owner := congrArg Table.mk hname
  exact ⟨otherOwner, h, hother, h.referenceTable_eq hother hreferences⟩

/-- A foreign key with two columns on either side has an equal one that states something
else. -/
theorem exists_beq_relation_ne (h : key.MadeFor owner) (hsides : ¬ key.OneSided) :
    ∃ other : ForeignKey, key.SameTables other ∧ (key == other) = true ∧
      other.relation ≠ key.relation := by
  obtain ⟨hkeys, hreferences⟩ := not_or.mp hsides
  obtain ⟨column, hcolumn⟩ := h.exists_mem_keys
  obtain ⟨reference, hreference⟩ := h.exists_mem_references
  have hkeysPos := Finset.card_pos.mpr ⟨column, List.mem_toFinset.mpr hcolumn⟩
  have hreferencesPos := Finset.card_pos.mpr ⟨reference, List.mem_toFinset.mpr hreference⟩
  have hkeysMany : 1 < (key.relation.image Prod.fst).card := by
    rw [h.image_fst_relation]
    omega
  have hreferencesMany : 1 < (key.relation.image Prod.snd).card := by
    rw [h.image_snd_relation]
    omega
  obtain ⟨others, hne, hfirst, hsecond⟩ := exists_ne_of_sides hkeysMany hreferencesMany
  rw [h.image_fst_relation] at hfirst
  rw [h.image_snd_relation] at hsecond
  have hkeysSame : ∀ column,
      column ∈ key.pairs.map Prod.fst ↔ column ∈ others.toList.map Prod.fst := by
    intro column
    rw [h.map_fst_pairs, ← List.mem_toFinset, ← hfirst]
    simp
  have hreferencesSame : ∀ column,
      column ∈ key.pairs.map Prod.snd ↔ column ∈ others.toList.map Prod.snd := by
    intro column
    rw [h.map_snd_pairs, ← List.mem_toFinset, ← hsecond]
    simp
  obtain ⟨other, hother, hequal⟩ :=
    exists_ofPairs_of_sides hkeysSame hreferencesSame h.ofPairs_pairs
  have hrelation : other.relation = others := by
    rw [relation_of_ofPairs hother, Finset.toList_toFinset]
  have hmade : other.MadeFor owner := ⟨_, _, hother⟩
  have hsame : key.references.toFinset = other.references.toFinset := by
    rw [← hmade.image_snd_relation, hrelation, hsecond]
  exact ⟨other, ⟨owner, h, hmade, h.referenceTable_eq hmade hsame⟩, hequal, hrelation ▸ hne⟩

end MadeFor

/-! ## What equal foreign keys state -/

/-- The columns of the foreign keys are told apart by their names: the tables are the same,
or no dot is in their names. -/
def Comparable (key other : ForeignKey) : Prop :=
  key.SameTables other ∨
    (∃ owner, key.MadeFor owner) ∧ (∃ owner, other.MadeFor owner) ∧ key.Undotted ∧ other.Undotted

/-- Both foreign keys have the same columns on either side, and they state the same if a
side is a single column. -/
structure Matches (key other : ForeignKey) : Prop where
  keys : key.keys.toFinset = other.keys.toFinset
  references : key.references.toFinset = other.references.toFinset
  relation : key.OneSided → key.relation = other.relation

theorem Comparable.sameTables (h : key.Comparable other) (hequal : (key == other) = true) :
    key.SameTables other := by
  rcases h with hsame | ⟨⟨_, hkey⟩, ⟨_, hother⟩, hundotted, hundotted'⟩
  · exact hsame
  · exact hkey.sameTables hother hundotted hundotted' hequal

theorem SameTables.matches_of_equal (h : key.SameTables other) (hequal : (key == other) = true) :
    key.Matches other := by
  obtain ⟨hkeys, hreferences⟩ := h.beq_iff_toFinset_eq.mp hequal
  obtain ⟨owner, hkey, hother, -⟩ := h
  refine ⟨hkeys, hreferences, ?_⟩
  intro hside
  apply eq_of_sides_eq
  · rw [hkey.image_fst_relation, hother.image_fst_relation, hkeys]
  · rw [hkey.image_snd_relation, hother.image_snd_relation, hreferences]
  · rwa [hkey.image_fst_relation, hkey.image_snd_relation]

/-- Equal foreign keys whose columns can be told apart have the same columns on either side,
and where a side is a single column they state the same.  Otherwise they need not.  A set that
is built by hashing thus keeps, for each foreign key that is put in, one with the same
columns. -/
theorem matches_of_beq (digest : List HashInput → UInt64) :
    (∀ key other : ForeignKey, key.Comparable other → (key == other) = true →
      key.SameTables other ∧ key.Matches other) ∧
    (∀ (key : ForeignKey) (owner : Table), key.MadeFor owner → ¬ key.OneSided →
      ∃ other : ForeignKey, key.SameTables other ∧ (key == other) = true ∧
        other.relation ≠ key.relation) ∧
    ∀ keys : List ForeignKey, ∀ key ∈ keys, ∃ kept ∈ keys,
      @Std.HashSet.get? _ _ (hashable digest) (hashSet digest keys) key = some kept ∧
        (key == kept) = true ∧ (key.Comparable kept → key.Matches kept) := by
  have hmatches : ∀ key other : ForeignKey, key.Comparable other → (key == other) = true →
      key.SameTables other ∧ key.Matches other := by
    intro key other hcomparable hequal
    have hsame := hcomparable.sameTables hequal
    exact ⟨hsame, hsame.matches_of_equal hequal⟩
  refine ⟨hmatches, ?_, ?_⟩
  · intro key owner hkey hsides
    exact hkey.exists_beq_relation_ne hsides
  · intro keys key hkey
    have hfound : (keys.find? fun other => other == key).isSome :=
      List.find?_isSome.mpr ⟨key, hkey, beq_equivalence.refl key⟩
    obtain ⟨kept, hkept⟩ := Option.isSome_iff_exists.mp hfound
    have hkeptEqual : (kept == key) = true :=
      List.find?_some (p := fun other => other == key) hkept
    have hequal := beq_equivalence.symm hkeptEqual
    refine ⟨kept, List.mem_of_find?_eq_some hkept, (get?_hashSet digest keys key).trans hkept,
      hequal, fun hcomparable => (hmatches key kept hcomparable hequal).2⟩

/-- The columns of `tenantKey`, paired crosswise. -/
def crossedKey : ForeignKey where
  keys := [⟨"orders", "tenant"⟩, ⟨"orders", "user.id"⟩]
  references := [⟨"users", "id"⟩, ⟨"users", "tenant"⟩]

theorem madeFor_tenantKey : tenantKey.MadeFor ⟨"orders"⟩ :=
  madeFor_iff.mpr ⟨by decide, by decide, by decide, "users", by decide⟩

theorem madeFor_crossedKey : crossedKey.MadeFor ⟨"orders"⟩ :=
  madeFor_iff.mpr ⟨by decide, by decide, by decide, "users", by decide⟩

theorem matches_of_beq_tenantKey :
    (tenantKey.Comparable crossedKey ∧ (tenantKey == crossedKey) = true ∧
      tenantKey.SameTables crossedKey ∧ tenantKey.Matches crossedKey) ∧
    (tenantKey.MadeFor ⟨"orders"⟩ ∧ ¬ tenantKey.OneSided ∧
      ∃ other : ForeignKey, tenantKey.SameTables other ∧ (tenantKey == other) = true ∧
        other.relation ≠ tenantKey.relation) ∧
    ∃ kept ∈ [crossedKey, tenantKey],
      @Std.HashSet.get? _ _ (hashable fun _ => 0) (hashSet (fun _ => 0) [crossedKey, tenantKey])
        tenantKey = some kept ∧ (tenantKey == kept) = true ∧
          (tenantKey.Comparable kept → tenantKey.Matches kept) := by
  obtain ⟨hmatches, hother, hkept⟩ := matches_of_beq fun _ => 0
  have hequal : (tenantKey == crossedKey) = true := by decide
  have hsides : ¬ tenantKey.OneSided := by unfold OneSided; decide
  have hcomparable : tenantKey.Comparable crossedKey :=
    .inr ⟨⟨_, madeFor_tenantKey⟩, ⟨_, madeFor_crossedKey⟩, by decide, by decide⟩
  refine ⟨⟨hcomparable, hequal, hmatches _ _ hcomparable hequal⟩,
    ⟨madeFor_tenantKey, hsides, hother _ _ madeFor_tenantKey hsides⟩, ?_⟩
  exact hkept [crossedKey, tenantKey] tenantKey (by simp)

/-- A foreign key of a table with a dot in its name. -/
def schemaKey : ForeignKey where
  keys := [⟨"shop.orders", "owner"⟩]
  references := [⟨"users", "id"⟩]

/-- A foreign key of another table, whose column has the same name with that of its table. -/
def shopKey : ForeignKey where
  keys := [⟨"shop", "orders.owner"⟩]
  references := [⟨"users", "id"⟩]

/-- Foreign keys that pair the same columns crosswise are equal, and a set keeps only one of
them.  So are foreign keys of columns that differ in where their dots belong. -/
theorem beq_crossedKey :
    (tenantKey.MadeFor ⟨"orders"⟩ ∧ crossedKey.MadeFor ⟨"orders"⟩ ∧
      (tenantKey == crossedKey) = true ∧ tenantKey.relation ≠ crossedKey.relation ∧
      (hashSet (fun _ => 0) [tenantKey, crossedKey]).size = 1) ∧
    (schemaKey.MadeFor ⟨"shop.orders"⟩ ∧ shopKey.MadeFor ⟨"shop"⟩ ∧
      (schemaKey == shopKey) = true ∧ schemaKey.relation ≠ shopKey.relation) := by
  refine ⟨⟨madeFor_tenantKey, madeFor_crossedKey, by decide, by decide, ?_⟩,
    ?_, ?_, by decide, by decide⟩
  · rw [size_hashSet]
    decide
  · exact madeFor_iff.mpr ⟨by decide, by decide, by decide, "users", by decide⟩
  · exact madeFor_iff.mpr ⟨by decide, by decide, by decide, "users", by decide⟩

end SqlText.ForeignKey
