import SqlText.Placeholder.Binding

/-!
# Values reach the places of their names

Recording names from left to right keeps, for each of them, the positions at which
it stands (`Positions.get?_ofNames`).  Laying out values works through the names in
ascending order; its invariant is that the slots of the names that are done hold
their values and all others are free (`putValues_eq_ok`).  In the end no slot is
free, so the only failure left is a name without a value, and it is reported for
the first of them.
-/

namespace SqlText

/-! ## Positions of names -/

/-- The positions of a name among names, counted from `1`. -/
def indicesOf (name : String) (names : List String) : List Nat :=
  (List.range' 1 names.length).filter fun position => names[position - 1]? = some name

theorem mem_indicesOf {name : String} {names : List String} {position : Nat} :
    position ∈ indicesOf name names ↔ 1 ≤ position ∧ names[position - 1]? = some name := by
  simp only [indicesOf, List.mem_filter, List.mem_range'_1, decide_eq_true_eq]
  constructor
  · rintro ⟨⟨hle, -⟩, hget⟩
    exact ⟨hle, hget⟩
  · rintro ⟨hle, hget⟩
    have hlt := (List.getElem?_eq_some_iff.mp hget).1
    exact ⟨by omega, hget⟩

theorem pairwise_indicesOf (name : String) (names : List String) :
    (indicesOf name names).Pairwise (· < ·) :=
  List.Pairwise.filter _ List.pairwise_lt_range'

theorem indicesOf_append_singleton (name other : String) (names : List String) :
    indicesOf name (names ++ [other]) =
      indicesOf name names ++ if other = name then [names.length + 1] else [] := by
  have hbefore : (List.range' 1 names.length).filter
      (fun position => decide ((names ++ [other])[position - 1]? = some name)) =
        indicesOf name names := by
    refine List.filter_congr fun position hposition => ?_
    rw [List.getElem?_append_left (by have := List.mem_range'_1.mp hposition; omega)]
  rw [indicesOf, List.length_append, List.length_singleton, List.range'_1_concat,
    List.filter_append, hbefore, Nat.add_comm 1, List.filter_cons]
  simp

theorem indicesOf_eq_nil {name : String} {names : List String} (h : name ∉ names) :
    indicesOf name names = [] := by
  refine List.eq_nil_iff_forall_not_mem.mpr fun position hposition => h ?_
  exact List.mem_of_getElem? (mem_indicesOf.mp hposition).2

namespace Positions

theorem lookup_cons_of_ne {name known : String} {positions : List Nat}
    {rest : List (String × List Nat)} (h : name ≠ known) :
    ((known, positions) :: rest).lookup name = rest.lookup name := by
  rw [List.lookup_cons, beq_false_of_ne h]

theorem lookup_cons_self {name : String} {positions : List Nat}
    {rest : List (String × List Nat)} :
    ((name, positions) :: rest).lookup name = some positions := by
  rw [List.lookup_cons, beq_self_eq_true]

theorem lookup_eq_none_of_lt {name : String} {entries : List (String × List Nat)}
    (h : ∀ entry ∈ entries, name < entry.1) : entries.lookup name = none := by
  refine List.lookup_eq_none_iff.mpr fun entry hentry => ?_
  exact bne_iff_ne.mpr (String.ne_of_lt (h entry hentry))

theorem lookup_changeEntry {entries : List (String × List Nat)}
    (h : entries.Pairwise fun first second => first.1 < second.1) (name other : String)
    (change : Option (List Nat) → List Nat) :
    (changeEntry name change entries).lookup other =
      if other = name then some (change (entries.lookup name)) else entries.lookup other := by
  induction entries with
  | nil =>
      rw [changeEntry]
      split
      case isTrue hother => rw [hother, lookup_cons_self, List.lookup_nil]
      case isFalse hother => rw [lookup_cons_of_ne hother]
  | cons first rest ih =>
      obtain ⟨known, positions⟩ := first
      obtain ⟨hfirst, hrest⟩ := List.pairwise_cons.mp h
      rw [changeEntry]
      split
      case isTrue hlt =>
        -- entries ascend, so a name before the first of them is not among them
        have hnone : ((known, positions) :: rest).lookup name = none := by
          refine lookup_eq_none_of_lt fun entry hentry => ?_
          rcases List.mem_cons.mp hentry with rfl | hentry
          · exact hlt
          · exact String.lt_trans hlt (hfirst entry hentry)
        rw [hnone]
        split
        case isTrue hother => rw [hother, lookup_cons_self]
        case isFalse hother => rw [lookup_cons_of_ne hother]
      case isFalse =>
        split
        case isTrue hname =>
          subst hname
          rw [lookup_cons_self]
          split
          case isTrue hother => rw [hother, lookup_cons_self]
          case isFalse hother => rw [lookup_cons_of_ne hother, lookup_cons_of_ne hother]
        case isFalse hname =>
          rw [lookup_cons_of_ne hname]
          by_cases hother : other = known
          · rw [hother, lookup_cons_self, lookup_cons_self, if_neg (Ne.symm hname)]
          · rw [lookup_cons_of_ne hother, lookup_cons_of_ne hother, ih hrest]

theorem get?_record (positions : Positions) (name other : String) (position : Nat) :
    (positions.record name position).get? other =
      if other = name then some ((positions.get? name).getD [] ++ [position])
      else positions.get? other :=
  lookup_changeEntry positions.ascending name other _

/-- Each of the names has its positions, and no other name has any. -/
def Locates (positions : Positions) (names : List String) : Prop :=
  ∀ name, positions.get? name = if name ∈ names then some (indicesOf name names) else none

theorem Locates.record {positions : Positions} {names : List String}
    (h : positions.Locates names) (name : String) :
    (positions.record name (names.length + 1)).Locates (names ++ [name]) := by
  intro other
  rw [get?_record, h other, h name, indicesOf_append_singleton]
  by_cases hother : other = name
  · subst hother
    by_cases hmem : other ∈ names
    · simp [hmem]
    · simp [hmem, indicesOf_eq_nil hmem]
  · simp [hother, Ne.symm hother]

theorem Locates.recordFrom {positions : Positions} {seen : List String}
    (h : positions.Locates seen) (names : List String) :
    (positions.recordFrom (seen.length + 1) names).Locates (seen ++ names) := by
  induction names generalizing positions seen with
  | nil => rwa [List.append_nil]
  | cons name rest ih =>
      have hrest := ih (h.record name)
      rw [List.length_append, List.length_singleton, List.append_assoc] at hrest
      exact hrest

/-- Names that are recorded one after the other are located. -/
theorem locates_ofNames (names : List String) : (ofNames names).Locates names := by
  have hempty : empty.Locates [] := fun name => rfl
  exact hempty.recordFrom names

end Positions

/-! ## Values of names -/

theorem getElem?_putValue {value : Value} {positions : List Nat}
    (h : ∀ position ∈ positions, 1 ≤ position) (slots : List (Option Value)) (index : Nat) :
    (putValue value positions slots)[index]? =
      if index + 1 ∈ positions ∧ index < slots.length then some (some value)
      else slots[index]? := by
  induction positions generalizing slots with
  | nil => simp [putValue]
  | cons position rest ih =>
      have hposition := h position (List.mem_cons_self ..)
      have hrest := ih (fun other hother => h other (List.mem_cons_of_mem _ hother))
        (slots.set (position - 1) (some value))
      rw [List.length_set] at hrest
      rw [putValue, List.foldl_cons, ← putValue, hrest, List.getElem?_set]
      have hset : position - 1 = index ↔ index + 1 = position := by omega
      simp only [hset, List.mem_cons]
      by_cases hindex : index + 1 = position <;> by_cases hlt : index < slots.length <;>
        simp_all

/-- Putting the value of a name into its slots changes what is known about it. -/
theorem putValue_indicesOf (names : List String) (known : String → Option Value) (name : String)
    (value : Value) :
    putValue value (indicesOf name names) (names.map known) =
      names.map fun other => if other = name then some value else known other := by
  refine List.ext_getElem? fun index => ?_
  rw [getElem?_putValue fun position hposition => (mem_indicesOf.mp hposition).1]
  simp only [mem_indicesOf, List.getElem?_map, List.length_map]
  cases hget : names[index]? with
  | none => simp_all
  | some other =>
      have hlt := (List.getElem?_eq_some_iff.mp hget).1
      by_cases hother : other = name <;> simp_all

/-- When all names have values, these are what the slots hold. -/
theorem putValues_eq_ok {values : String → Option Value} {names : List String}
    {entries : List (String × List Nat)}
    (hentries : ∀ entry ∈ entries, entry.2 = indicesOf entry.1 names)
    (hvalues : ∀ entry ∈ entries, (values entry.1).isSome) (known : String → Option Value) :
    putValues values entries (names.map known) =
      .ok (names.map fun name =>
        if name ∈ entries.map Prod.fst then values name else known name) := by
  induction entries generalizing known with
  | nil => simp [putValues]
  | cons entry rest ih =>
      obtain ⟨name, positions⟩ := entry
      obtain ⟨value, hvalue⟩ := Option.isSome_iff_exists.mp (hvalues _ (List.mem_cons_self ..))
      obtain rfl : positions = indicesOf name names := hentries _ (List.mem_cons_self ..)
      simp only [putValues, hvalue, putValue_indicesOf]
      -- for the names that are left, the value of this one is known already
      rw [ih (fun entry hentry => hentries entry (List.mem_cons_of_mem _ hentry))
        fun entry hentry => hvalues entry (List.mem_cons_of_mem _ hentry)]
      congr 1
      refine List.map_congr_left fun other _ => ?_
      by_cases hother : other = name
      · simp [hother, hvalue]
      · simp only [List.map_cons, List.mem_cons, hother, false_or, if_false]

/-- When a name has no value, the smallest such name is reported. -/
theorem putValues_eq_error {values : String → Option Value}
    {entries : List (String × List Nat)}
    (hascending : entries.Pairwise fun first second => first.1 < second.1)
    (hmissing : ∃ entry ∈ entries, values entry.1 = none) (slots : List (Option Value)) :
    ∃ missing ∈ entries, values missing.1 = none ∧
      (∀ entry ∈ entries, values entry.1 = none → missing.1 ≤ entry.1) ∧
      putValues values entries slots = .error (.unboundParameter missing.1) := by
  induction entries generalizing slots with
  | nil => simp at hmissing
  | cons first rest ih =>
      obtain ⟨hfirst, hrest⟩ := List.pairwise_cons.mp hascending
      cases hvalue : values first.1 with
      | none =>
          refine ⟨first, List.mem_cons_self .., hvalue, ?_, by simp [putValues, hvalue]⟩
          intro entry hentry _
          rcases List.mem_cons.mp hentry with rfl | hentry
          · exact String.le_refl _
          · exact Std.le_of_lt (hfirst entry hentry)
      | some value =>
          have hmissing : ∃ entry ∈ rest, values entry.1 = none := by
            obtain ⟨entry, hentry, hnone⟩ := hmissing
            rcases List.mem_cons.mp hentry with rfl | hentry
            · rw [hvalue] at hnone
              cases hnone
            · exact ⟨entry, hentry, hnone⟩
          obtain ⟨missing, hmem, hnone, hle, hput⟩ :=
            ih hrest hmissing (putValue value first.2 slots)
          refine ⟨missing, List.mem_cons_of_mem _ hmem, hnone, ?_, by simp [putValues, hvalue, hput]⟩
          intro entry hentry hentryNone
          rcases List.mem_cons.mp hentry with rfl | hentry
          · rw [hvalue] at hentryNone
            cases hentryNone
          · exact hle entry hentry hentryNone

theorem exists_map_some {slots : List (Option Value)} (h : ∀ value? ∈ slots, value?.isSome) :
    ∃ given : List Value, given.map some = slots := by
  induction slots with
  | nil => exact ⟨[], rfl⟩
  | cons value? rest ih =>
      obtain ⟨value, rfl⟩ := Option.isSome_iff_exists.mp (h _ (List.mem_cons_self ..))
      obtain ⟨given, rfl⟩ := ih fun other hother => h other (List.mem_cons_of_mem _ hother)
      exact ⟨value :: given, rfl⟩

theorem takeValues_map_some (position : Nat) (given : List Value) :
    takeValues position (given.map some) = .ok given := by
  induction given generalizing position with
  | nil => rfl
  | cons value rest ih =>
      rw [List.map_cons, takeValues, ih]
      rfl

/-! ## Binding -/

namespace Positions

theorem mem_entries_iff {positions : Positions} {name : String} {given : List Nat} :
    (name, given) ∈ positions.entries ↔ positions.get? name = some given := by
  obtain ⟨entries, hascending⟩ := positions
  simp only [get?]
  induction entries with
  | nil => simp
  | cons first rest ih =>
      obtain ⟨known, other⟩ := first
      obtain ⟨hfirst, hrest⟩ := List.pairwise_cons.mp hascending
      by_cases hname : name = known
      · subst hname
        have hrest : (name, given) ∉ rest := fun h =>
          String.lt_irrefl _ (hfirst (name, given) h)
        rw [lookup_cons_self]
        simp [hrest, eq_comm]
      · rw [lookup_cons_of_ne hname, ← ih hrest]
        simp [hname]

variable {positions : Positions} {names : List String}

theorem Locates.eq_indicesOf (h : positions.Locates names) {entry : String × List Nat}
    (hentry : entry ∈ positions.entries) :
    entry.1 ∈ names ∧ entry.2 = indicesOf entry.1 names := by
  have hget := mem_entries_iff.mp hentry
  rw [h entry.1] at hget
  split at hget
  case isTrue hmem => exact ⟨hmem, (Option.some.inj hget).symm⟩
  case isFalse => cases hget

theorem Locates.mem_keys (h : positions.Locates names) {name : String} (hname : name ∈ names) :
    (name, indicesOf name names) ∈ positions.entries := by
  rw [mem_entries_iff, h name, if_pos hname]

end Positions

namespace NamedText

variable {named : NamedText} {names : List String} {values : String → Option Value}

/-- Every position gets the value of its name. -/
theorem bind_eq_ok_of_locates (hpositions : named.positions.Locates names)
    (hcount : named.count = names.length) (hvalues : ∀ name ∈ names, (values name).isSome) :
    ∃ given, named.bind values = .ok given ∧ given.map some = names.map values := by
  obtain ⟨given, hgiven⟩ := exists_map_some fun value? hvalue => by
    obtain ⟨name, hname, rfl⟩ := List.mem_map.mp hvalue
    exact hvalues name hname
  have hslots : putValues values named.positions.entries (List.replicate named.count none) =
      .ok (given.map some) := by
    rw [hcount, ← List.map_const', putValues_eq_ok (fun entry => And.right ∘ hpositions.eq_indicesOf)
      fun entry hentry => hvalues entry.1 (hpositions.eq_indicesOf hentry).1, hgiven]
    congr 1
    refine List.map_congr_left fun name hname => if_pos ?_
    exact List.mem_map.mpr ⟨_, hpositions.mem_keys hname, rfl⟩
  refine ⟨given, ?_, hgiven⟩
  rw [bind, hslots]
  exact takeValues_map_some 1 given

/-- The smallest name without a value is reported. -/
theorem bind_eq_error_of_locates (hpositions : named.positions.Locates names)
    (hmissing : ∃ name ∈ names, values name = none) :
    ∃ missing ∈ names, values missing = none ∧
      (∀ name ∈ names, values name = none → missing ≤ name) ∧
      named.bind values = .error (.unboundParameter missing) := by
  obtain ⟨name, hname, hnone⟩ := hmissing
  obtain ⟨missing, hmem, hnone, hle, hput⟩ :=
    putValues_eq_error named.positions.ascending ⟨_, hpositions.mem_keys hname, hnone⟩
      (List.replicate named.count none)
  refine ⟨missing.1, (hpositions.eq_indicesOf hmem).1, hnone, ?_, ?_⟩
  · intro other hother hotherNone
    exact hle _ (hpositions.mem_keys hother) hotherNone
  · rw [bind, hput]
    rfl

/-- The placeholders of a text stand for the given names, one after the other, and
values go to the placeholders of their names. -/
structure Serves (named : NamedText) (names : List String) : Prop where
  count_eq : named.count = names.length
  locates : named.positions.Locates names
  increasing : ∀ entry ∈ named.positions.entries, entry.2.Pairwise (· < ·)
  in_range : ∀ entry ∈ named.positions.entries, ∀ position ∈ entry.2,
    1 ≤ position ∧ position ≤ named.count
  bind_eq_ok : ∀ values : String → Option Value, (∀ name ∈ names, (values name).isSome) →
    ∃ given, named.bind values = .ok given ∧ given.map some = names.map values
  bind_eq_error : ∀ values : String → Option Value, (∃ name ∈ names, values name = none) →
    ∃ missing ∈ names, values missing = none ∧
      (∀ name ∈ names, values name = none → missing ≤ name) ∧
      named.bind values = .error (.unboundParameter missing)
  bind_ne_unfilled : ∀ (values : String → Option Value) (position : Nat),
    named.bind values ≠ .error (.unfilledPosition position)

theorem serves_of_locates (hpositions : named.positions.Locates names)
    (hcount : named.count = names.length) : named.Serves names where
  count_eq := hcount
  locates := hpositions
  increasing entry hentry := by
    rw [(hpositions.eq_indicesOf hentry).2]
    exact pairwise_indicesOf entry.1 names
  in_range entry hentry position hposition := by
    rw [(hpositions.eq_indicesOf hentry).2, mem_indicesOf] at hposition
    have hlt := (List.getElem?_eq_some_iff.mp hposition.2).1
    omega
  bind_eq_ok _ := bind_eq_ok_of_locates hpositions hcount
  bind_eq_error _ := bind_eq_error_of_locates hpositions
  bind_ne_unfilled values position h := by
    by_cases hvalues : ∀ name ∈ names, (values name).isSome
    · obtain ⟨given, hgiven, -⟩ := bind_eq_ok_of_locates hpositions hcount hvalues
      rw [hgiven] at h
      cases h
    · -- a missing value is found before any slot is looked at
      have hmissing : ∃ name ∈ names, values name = none := by simpa using hvalues
      obtain ⟨missing, -, -, -, hbind⟩ := bind_eq_error_of_locates hpositions hmissing
      rw [hbind] at h
      cases h

end NamedText

end SqlText
