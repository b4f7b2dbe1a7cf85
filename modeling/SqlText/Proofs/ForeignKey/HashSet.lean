import SqlText.Proofs.ForeignKey.Equality

/-!
# Sets of foreign keys

Foreign keys that are equal feed the same to a hash function, so a set that is built by
hashing tells them apart just as `==` does.  Putting in one more key either finds an equal
one there, and then the set stays as it is, or adds the key and with it a new class.  So the
set holds one key for each class of equal ones (`size_hashSet`), the first that was put in
(`get?_hashSet`), whichever hash function is used.
-/

namespace SqlText.ForeignKey

variable {key other : ForeignKey}

instance setoid : Setoid ForeignKey :=
  ⟨fun key other => (key == other) = true, beq_equivalence⟩

instance (key other : ForeignKey) : Decidable (key ≈ other) :=
  inferInstanceAs (Decidable ((key == other) = true))

/-- The classes of equal foreign keys in a list. -/
def classes (keys : List ForeignKey) : Finset (Quotient setoid) :=
  (keys.map (Quotient.mk setoid)).toFinset

theorem mem_classes {keys : List ForeignKey} :
    Quotient.mk setoid key ∈ classes keys ↔ ∃ other ∈ keys, (other == key) = true := by
  simp only [classes, List.mem_toFinset, List.mem_map]
  exact exists_congr fun other => and_congr_right fun _ => Quotient.eq

theorem classes_concat (keys : List ForeignKey) (key : ForeignKey) :
    classes (keys ++ [key]) = insert (Quotient.mk setoid key) (classes keys) := by
  ext found
  simp [classes]

/-- Foreign keys are hashed by what they feed to `digest`. -/
@[reducible] def hashable (digest : List HashInput → UInt64) : Hashable ForeignKey :=
  ⟨hashBy digest⟩

theorem lawfulHashable (digest : List HashInput → UInt64) :
    @LawfulHashable ForeignKey _ (hashable digest) :=
  letI := hashable digest
  ⟨fun _ _ h => congrArg digest (hashInputs_eq_of_beq h)⟩

/-- The set that is built when foreign keys are hashed and put in one after the other. -/
def hashSet (digest : List HashInput → UInt64) (keys : List ForeignKey) :
    @Std.HashSet ForeignKey _ (hashable digest) :=
  letI := hashable digest
  keys.foldl Std.HashSet.insert ∅

section

variable (digest : List HashInput → UInt64)

theorem hashSet_concat (keys : List ForeignKey) (key : ForeignKey) :
    hashSet digest (keys ++ [key]) =
      @Std.HashSet.insert _ _ (hashable digest) (hashSet digest keys) key := by
  simp only [hashSet, List.foldl_append, List.foldl_cons, List.foldl_nil]

/-- A set has a foreign key if one of its class was put in. -/
theorem mem_hashSet {keys : List ForeignKey} :
    key ∈ hashSet digest keys ↔ Quotient.mk setoid key ∈ classes keys := by
  let := hashable digest
  have := lawfulHashable digest
  induction keys using List.reverseRecOn with
  | nil => simp [hashSet, classes]
  | append_singleton keys last ih =>
      have hlast : (last == key) = true ↔ Quotient.mk setoid key = Quotient.mk setoid last :=
        ⟨fun h => (Quotient.sound h).symm, fun h => Quotient.exact h.symm⟩
      rw [hashSet_concat, classes_concat, Finset.mem_insert, ← hlast]
      exact Std.HashSet.mem_insert.trans (or_congr_right ih)

/-- A set holds one foreign key for each class that was put in. -/
theorem size_hashSet (keys : List ForeignKey) :
    (hashSet digest keys).size = (classes keys).card := by
  let := hashable digest
  have := lawfulHashable digest
  induction keys using List.reverseRecOn with
  | nil => simp [hashSet, classes]
  | append_singleton keys last ih =>
      rw [hashSet_concat, classes_concat, Std.HashSet.size_insert]
      by_cases hlast : Quotient.mk setoid last ∈ classes keys
      · rw [if_pos ((mem_hashSet digest).mpr hlast), Finset.insert_eq_of_mem hlast, ih]
      · rw [if_neg (mt (mem_hashSet digest).mp hlast), Finset.card_insert_of_notMem hlast, ih]

/-- Of equal foreign keys a set keeps the one that was put in first. -/
theorem get?_hashSet (keys : List ForeignKey) (key : ForeignKey) :
    @Std.HashSet.get? _ _ (hashable digest) (hashSet digest keys) key =
      keys.find? fun other => other == key := by
  let := hashable digest
  have := lawfulHashable digest
  induction keys using List.reverseRecOn with
  | nil => exact Std.HashSet.get?_empty
  | append_singleton keys last ih =>
      rw [hashSet_concat, Std.HashSet.get?_insert, ih, List.find?_append]
      cases hfirst : keys.find? fun other => other == key with
      | some first =>
          -- the class of the last key is there already, if it is that of `key`
          refine if_neg ?_
          rintro ⟨hlast, hnew⟩
          apply hnew
          rw [mem_hashSet, mem_classes]
          have hkey : (first == key) = true :=
            List.find?_some (p := fun other => other == key) hfirst
          exact ⟨first, List.mem_of_find?_eq_some hfirst,
            beq_equivalence.trans hkey (beq_equivalence.symm hlast)⟩
      | none =>
          by_cases hlast : (last == key) = true
          · simp only [Option.none_or, List.find?_singleton, if_pos hlast]
            refine if_pos ⟨hlast, ?_⟩
            rw [mem_hashSet, mem_classes]
            rintro ⟨other, hother, hequal⟩
            exact List.find?_eq_none.mp hfirst other hother (beq_equivalence.trans hequal hlast)
          · simp only [Option.none_or, List.find?_singleton, if_neg hlast]
            exact if_neg fun h => hlast h.1

end

/-! ## What equality is -/

/-- Without dots in the names of tables, equality of foreign keys is equality of their two
sets of columns; so it depends neither on the order of the pairs nor on how often each is
there.  It is an equivalence that hashing follows, and a set that is built by hashing, in
whatever order, has as many elements as there are classes. -/
theorem told_apart_by_columns (digest : List HashInput → UInt64) :
    (∀ key other : ForeignKey, key.Undotted → other.Undotted →
      ((key == other) = true ↔ key.keys.toFinset = other.keys.toFinset ∧
        key.references.toFinset = other.references.toFinset)) ∧
    (∀ pairs others owner key, ofPairs pairs owner = .ok key →
      (others.Perm pairs ∨ ∃ pair ∈ pairs, others.Perm (pair :: pairs)) →
        ∃ other, ofPairs others owner = .ok other ∧ (key == other) = true) ∧
    (Equivalence fun key other : ForeignKey => (key == other) = true) ∧
    (∀ key other : ForeignKey, (key == other) = true → key.hashInputs = other.hashInputs) ∧
    ∀ keys order : List ForeignKey, order.Perm keys →
      (hashSet digest order).size = (classes keys).card := by
  refine ⟨?_, ?_, beq_equivalence, ?_, ?_⟩
  · intro key other hkey hother
    exact beq_iff_toFinset_eq hkey hother
  · intro pairs others owner key hkey hothers
    refine exists_ofPairs (fun pair => ?_) hkey
    rcases hothers with hperm | ⟨repeated, hrepeated, hperm⟩
    · exact hperm.mem_iff.symm
    · rw [hperm.mem_iff, List.mem_cons]
      exact ⟨Or.inr, fun h => h.elim (fun heq => heq ▸ hrepeated) id⟩
  · intro key other hequal
    exact hashInputs_eq_of_beq hequal
  · intro keys order hperm
    rw [size_hashSet, classes, List.toFinset_eq_of_perm _ _ (hperm.map _), ← classes]

/-- A foreign key of two pairs, in which a column has a dot in its name. -/
def tenantKey : ForeignKey where
  keys := [⟨"orders", "tenant"⟩, ⟨"orders", "user.id"⟩]
  references := [⟨"users", "tenant"⟩, ⟨"users", "id"⟩]

/-- The same pairs in the other order, one of them twice. -/
def tenantKeyAgain : ForeignKey where
  keys := [⟨"orders", "user.id"⟩, ⟨"orders", "tenant"⟩, ⟨"orders", "user.id"⟩]
  references := [⟨"users", "id"⟩, ⟨"users", "tenant"⟩, ⟨"users", "id"⟩]

/-- One of the pairs. -/
def userKey : ForeignKey where
  keys := [⟨"orders", "user.id"⟩]
  references := [⟨"users", "id"⟩]

theorem told_apart_by_columns_tenantKey :
    (tenantKey.Undotted ∧ tenantKeyAgain.Undotted ∧ (tenantKey == tenantKeyAgain) = true) ∧
    (∃ other, ofPairs tenantKeyAgain.pairs ⟨"orders"⟩ = .ok other ∧
      (tenantKey == other) = true) ∧
    tenantKey.hashInputs = tenantKeyAgain.hashInputs ∧
    (hashSet (fun _ => 0) [userKey, tenantKeyAgain, tenantKey]).size = 2 := by
  obtain ⟨hcolumns, hpairs, -, hinputs, hsize⟩ := told_apart_by_columns fun _ => 0
  have hequal : (tenantKey == tenantKeyAgain) = true :=
    (hcolumns _ _ (by decide) (by decide)).mpr (by decide)
  refine ⟨⟨by decide, by decide, hequal⟩, ?_, hinputs _ _ hequal, ?_⟩
  · exact hpairs tenantKey.pairs _ ⟨"orders"⟩ tenantKey
      (ofPairs_eq_ok_iff.mpr ⟨rfl, by decide, by decide, "users", by decide⟩)
      (Or.inr ⟨(⟨"orders", "user.id"⟩, ⟨"users", "id"⟩), by decide, by decide⟩)
  · have hreversed := hsize [tenantKey, tenantKeyAgain, userKey] _ (List.reverse_perm _)
    exact hreversed.trans (by decide)

end SqlText.ForeignKey
