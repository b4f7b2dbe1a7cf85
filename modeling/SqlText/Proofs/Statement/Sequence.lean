/-!
# Computations one after the other

Writing is a sequence of computations that may fail, and the first one that does ends it.
What is known of the parts is turned here into what is known of the whole: when it succeeds
and with which result, and for the parts of a list also in which way it fails
(`mapM_eq_ok_iff`, `mapM_eq_error_iff`).
-/

namespace SqlText

variable {ε α β : Type}

/-! ## Two computations -/

theorem bind_eq_ok {first : Except ε α} {next : α → Except ε β} {result : β} :
    (first >>= next) = .ok result ↔ ∃ value, first = .ok value ∧ next value = .ok result := by
  cases first <;> simp [Bind.bind, Except.bind]

theorem ok_bind (value : α) (next : α → Except ε β) :
    (Except.ok value >>= next) = next value :=
  rfl

theorem pure_eq_ok {value result : α} :
    (pure value : Except ε α) = .ok result ↔ value = result := by
  simp [pure, Except.pure]

theorem map_eq_ok {first : Except ε α} {change : α → β} {result : β} :
    first.map change = .ok result ↔ ∃ value, first = .ok value ∧ change value = result := by
  cases first <;> simp [Except.map]

theorem map_eq_error {first : Except ε α} {change : α → β} {fault : ε} :
    first.map change = .error fault ↔ first = .error fault := by
  cases first <;> simp [Except.map]

/-! ## Whether there is a result -/

theorem isOk_iff {result : Except ε α} : result.isOk = true ↔ ∃ value, result = .ok value := by
  cases result <;> simp [Except.isOk, Except.toBool]

/-- Two computations in a row succeed if both do.  The second one may use what the first
one gives. -/
theorem isOk_bind {first : Except ε α} {next : α → Except ε β} {answer : Bool}
    (h : ∀ value, first = .ok value → (next value).isOk = answer) :
    (first >>= next).isOk = (first.isOk && answer) := by
  cases first with
  | error fault => rfl
  | ok value => exact h value rfl

theorem isOk_pure (value : α) : (pure value : Except ε α).isOk = true :=
  rfl

/-- What is done to a result does not keep it from being one. -/
theorem isOk_bind_pure (first : Except ε α) (change : α → β) :
    (first >>= fun value => (pure (change value) : Except ε β)).isOk = first.isOk := by
  rw [isOk_bind fun value _ => isOk_pure (change value), Bool.and_true]

theorem isOk_mapM (write : α → Except ε β) (items : List α) :
    (items.mapM write).isOk = items.all fun item => (write item).isOk := by
  induction items with
  | nil => rfl
  | cons item rest ih =>
      rw [List.mapM_cons, isOk_bind fun _ _ => isOk_bind_pure _ _, ih, List.all_cons]

/-! ## Lists of computations -/

variable {write : α → Except ε β} {item : α} {items : List α} {fault : ε}

theorem exists_mapM_eq_ok_iff :
    (∃ results, items.mapM write = .ok results) ↔
      ∀ item ∈ items, ∃ result, write item = .ok result := by
  rw [← isOk_iff, isOk_mapM, List.all_eq_true]
  simp only [isOk_iff]

/-- A list of results holds the results of the items, in their order. -/
theorem mapM_eq_ok_iff {results : List β} :
    items.mapM write = .ok results ↔ items.map write = results.map .ok := by
  induction items generalizing results with
  | nil =>
      rw [List.mapM_nil, pure_eq_ok, List.map_nil]
      cases results <;> simp
  | cons item rest ih =>
      simp only [List.mapM_cons, bind_eq_ok, pure_eq_ok, ih]
      constructor
      · rintro ⟨result, hresult, others, hothers, rfl⟩
        rw [List.map_cons, List.map_cons, hresult, hothers]
      · intro h
        cases results with
        | nil => exact absurd h (List.cons_ne_nil _ _)
        | cons result others =>
            obtain ⟨hresult, hothers⟩ := List.cons.inj h
            exact ⟨result, hresult, others, hothers, rfl⟩

theorem length_of_mapM_eq_ok {results : List β} (h : items.mapM write = .ok results) :
    results.length = items.length := by
  have hlength := congrArg List.length (mapM_eq_ok_iff.mp h)
  rwa [List.length_map, List.length_map, eq_comm] at hlength

/-- One of the items fails with a fault, and none before it fails. -/
def FirstFails (write : α → Except ε β) (items : List α) (fault : ε) : Prop :=
  ∃ before item after, items = before ++ item :: after ∧
    (∀ other ∈ before, ∃ result, write other = .ok result) ∧ write item = .error fault

theorem not_firstFails_nil : ¬ FirstFails write [] fault := by
  rintro ⟨before, item, after, heq, -⟩
  exact absurd heq.symm (List.append_ne_nil_of_right_ne_nil _ (List.cons_ne_nil _ _))

/-- The first item to fail is the one in front, or the first one behind it. -/
theorem firstFails_cons_iff :
    FirstFails write (item :: items) fault ↔
      write item = .error fault ∨
        (∃ result, write item = .ok result) ∧ FirstFails write items fault := by
  constructor
  · rintro ⟨before, failing, after, heq, hbefore, hfailing⟩
    cases before with
    | nil =>
        obtain ⟨rfl, -⟩ := List.cons.inj heq
        exact Or.inl hfailing
    | cons first before =>
        obtain ⟨rfl, rfl⟩ := List.cons.inj heq
        obtain ⟨hfirst, hothers⟩ := List.forall_mem_cons.mp hbefore
        exact Or.inr ⟨hfirst, before, failing, after, rfl, hothers, hfailing⟩
  · rintro (hitem | ⟨hitem, before, failing, after, rfl, hbefore, hfailing⟩)
    · exact ⟨[], item, items, rfl, by simp, hitem⟩
    · exact ⟨item :: before, failing, after, rfl, List.forall_mem_cons.mpr ⟨hitem, hbefore⟩,
        hfailing⟩

theorem mapM_eq_error_iff :
    items.mapM write = .error fault ↔ FirstFails write items fault := by
  induction items with
  | nil => exact iff_of_false (fun h => nomatch h) not_firstFails_nil
  | cons item rest ih =>
      rw [List.mapM_cons, firstFails_cons_iff, ← ih]
      cases write item with
      | error found => simp [bind, Except.bind]
      | ok result =>
          cases rest.mapM write with
          | error found => simp [bind, Except.bind]
          | ok others => simp [bind, Except.bind, pure, Except.pure]

end SqlText
