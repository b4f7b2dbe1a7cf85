import SqlText.Proofs.Placeholder.Binding

/-!
# Filling the slots of any record of names

The positions of names need not come from a text.  Here they are only known to lie among the
placeholders; a name may have no position or the same one twice, two names may share a
position, and a position may belong to no name.

Values are put into the slots name after name, in ascending order, so a later name overwrites
an earlier one.  What a slot holds in the end is therefore decided by the greatest of the
names that list its position (`IsOwner`), and a slot that no name lists stays free
(`putValues_fills`).

```text
names      a ↦ 1, 2, 1    b ↦ 2    c ↦
slots      -  -    a  a    a  b    a  b
```

The two reasons to fail come one after the other: first a name without a value, and only when
all names are done a free slot.  Both are looked for in ascending order, so the smallest is
reported.
-/

namespace SqlText

/-! ## Slots that are there -/

/-- Puts a value into the slot at a position.  There has to be such a slot. -/
def putAt? (value : Value) (slots : List (Option Value)) (position : Nat) :
    Option (List (Option Value)) :=
  if 1 ≤ position ∧ position ≤ slots.length then
    some (slots.set (position - 1) (some value))
  else none

/-- Puts the values of names into their slots, as long as these slots are there. -/
def putValues? (values : String → Option Value) :
    List (String × List Nat) → List (Option Value) →
      Option (Except Fault (List (Option Value)))
  | [], slots => some (.ok slots)
  | (name, positions) :: rest, slots =>
      match values name with
      | some value => do putValues? values rest (← positions.foldlM (putAt? value) slots)
      | none => some (.error (.unboundParameter name))

/-- The arguments of a statement, where a position without a slot ends everything. -/
def NamedText.bind? (named : NamedText) (values : String → Option Value) :
    Option (Except Fault (List Value)) := do
  let filled ← putValues? values named.positions.entries (List.replicate named.count none)
  return filled >>= takeValues 1

theorem length_putValue (value : Value) (positions : List Nat) (slots : List (Option Value)) :
    (putValue value positions slots).length = slots.length := by
  unfold putValue
  induction positions generalizing slots with
  | nil => rfl
  | cons position rest ih => rw [List.foldl_cons, ih, List.length_set]

theorem foldlM_putAt? (value : Value) {positions : List Nat} {slots : List (Option Value)}
    (h : ∀ position ∈ positions, 1 ≤ position ∧ position ≤ slots.length) :
    positions.foldlM (putAt? value) slots = some (putValue value positions slots) := by
  induction positions generalizing slots with
  | nil => rfl
  | cons position rest ih =>
      obtain ⟨hposition, hrest⟩ := List.forall_mem_cons.mp h
      rw [← List.length_set (i := position - 1) (a := some value)] at hrest
      rw [List.foldlM_cons, putAt?, if_pos hposition]
      exact ih hrest

theorem putValues?_eq (values : String → Option Value) {entries : List (String × List Nat)}
    {slots : List (Option Value)}
    (h : ∀ entry ∈ entries, ∀ position ∈ entry.2, 1 ≤ position ∧ position ≤ slots.length) :
    putValues? values entries slots = some (putValues values entries slots) := by
  induction entries generalizing slots with
  | nil => rfl
  | cons entry rest ih =>
      obtain ⟨name, positions⟩ := entry
      obtain ⟨hpositions, hrest⟩ := List.forall_mem_cons.mp h
      rw [putValues?, putValues]
      cases values name with
      | none => rfl
      | some value =>
          rw [← length_putValue value positions slots] at hrest
          simp only [foldlM_putAt? value hpositions]
          exact ih hrest

/-! ## Owners of positions -/

/-- An entry lists a position, and its name is the greatest of those that do. -/
structure IsOwner (entries : List (String × List Nat)) (position : Nat)
    (entry : String × List Nat) : Prop where
  mem : entry ∈ entries
  lists : position ∈ entry.2
  greatest : ∀ other ∈ entries, position ∈ other.2 → other.1 ≤ entry.1

/-- Entries ascend. -/
abbrev Ascending (entries : List (String × List Nat)) : Prop :=
  entries.Pairwise fun first second => first.1 < second.1

variable {values : String → Option Value} {entries rest : List (String × List Nat)}
  {first entry : String × List Nat} {position : Nat}

/-- Later entries have greater names, so an owner among them is one of all. -/
theorem IsOwner.cons (hascending : Ascending (first :: rest)) (h : IsOwner rest position entry) :
    IsOwner (first :: rest) position entry := by
  refine ⟨List.mem_cons_of_mem _ h.mem, h.lists, fun other hother hlists => ?_⟩
  rcases List.mem_cons.mp hother with rfl | hother
  · exact Std.le_of_lt ((List.pairwise_cons.mp hascending).1 entry h.mem)
  · exact h.greatest other hother hlists

/-- Of entries that list a position, one is its owner. -/
theorem exists_isOwner (hascending : Ascending entries)
    (h : ∃ entry ∈ entries, position ∈ entry.2) : ∃ entry, IsOwner entries position entry := by
  induction entries with
  | nil => simp at h
  | cons first rest ih =>
      by_cases hrest : ∃ entry ∈ rest, position ∈ entry.2
      · obtain ⟨entry, hentry⟩ := ih (List.pairwise_cons.mp hascending).2 hrest
        exact ⟨entry, hentry.cons hascending⟩
      · have hnone : ∀ other ∈ rest, position ∉ other.2 := by simpa using hrest
        obtain ⟨entry, hentry, hlists⟩ := h
        rcases List.mem_cons.mp hentry with rfl | hentry
        · refine ⟨entry, List.mem_cons_self .., hlists, fun other hother hother' => ?_⟩
          rcases List.mem_cons.mp hother with rfl | hother
          · exact String.le_refl _
          · exact absurd hother' (hnone other hother)
        · exact absurd hlists (hnone entry hentry)

/-- The owner is among the later entries, or none of them lists the position. -/
theorem IsOwner.of_cons (hascending : Ascending (first :: rest))
    (h : IsOwner (first :: rest) position entry) :
    IsOwner rest position entry ∨ entry = first ∧ ∀ other ∈ rest, position ∉ other.2 := by
  rcases List.mem_cons.mp h.mem with rfl | hmem
  · refine Or.inr ⟨rfl, fun other hother hlists => ?_⟩
    have hle := h.greatest other (List.mem_cons_of_mem _ hother) hlists
    have hlt := (List.pairwise_cons.mp hascending).1 other hother
    exact absurd hlt (String.not_lt.mpr hle)
  · exact Or.inl ⟨hmem, h.lists, fun other hother => h.greatest other (List.mem_cons_of_mem _ hother)⟩

/-! ## What slots hold -/

/-- In the end, a slot holds the value of the owner of its position, or what it held before
if there is none. -/
theorem putValues_fills (hascending : Ascending entries)
    (hpositive : ∀ entry ∈ entries, ∀ position ∈ entry.2, 1 ≤ position)
    {slots filled : List (Option Value)} (h : putValues values entries slots = .ok filled) :
    filled.length = slots.length ∧ ∀ index < slots.length,
      (∀ entry, IsOwner entries (index + 1) entry → filled[index]? = some (values entry.1)) ∧
        ((∀ entry ∈ entries, index + 1 ∉ entry.2) → filled[index]? = slots[index]?) := by
  induction entries generalizing slots with
  | nil =>
      obtain rfl := Except.ok.inj h
      refine ⟨rfl, fun index _ => ⟨fun entry howner => ?_, fun _ => rfl⟩⟩
      exact absurd howner.mem (List.not_mem_nil)
  | cons first rest ih =>
      obtain ⟨hpositions, hrest⟩ := List.forall_mem_cons.mp hpositive
      rw [putValues] at h
      cases hvalue : values first.1 with
      | none => rw [hvalue] at h; cases h
      | some value =>
          rw [hvalue] at h
          obtain ⟨hlength, hslots⟩ := ih (List.pairwise_cons.mp hascending).2 hrest h
          rw [length_putValue] at hlength hslots
          refine ⟨hlength, fun index hindex => ⟨fun entry howner => ?_, fun hnone => ?_⟩⟩
          · rcases howner.of_cons hascending with hlater | ⟨rfl, hnone⟩
            · exact (hslots index hindex).1 entry hlater
            · -- no later name overwrites the value
              rw [(hslots index hindex).2 hnone, getElem?_putValue hpositions,
                if_pos ⟨howner.lists, hindex⟩, hvalue]
          · obtain ⟨hfirst, hothers⟩ := List.forall_mem_cons.mp hnone
            rw [(hslots index hindex).2 hothers, getElem?_putValue hpositions,
              if_neg fun hmem => hfirst hmem.1]

/-- When all names have values, nothing keeps them from being put into slots. -/
theorem exists_putValues_eq_ok (h : ∀ entry ∈ entries, (values entry.1).isSome)
    (slots : List (Option Value)) : ∃ filled, putValues values entries slots = .ok filled := by
  induction entries generalizing slots with
  | nil => exact ⟨slots, rfl⟩
  | cons first rest ih =>
      obtain ⟨hfirst, hrest⟩ := List.forall_mem_cons.mp h
      obtain ⟨value, hvalue⟩ := Option.isSome_iff_exists.mp hfirst
      rw [putValues, hvalue]
      exact ih hrest _

/-! ## Free slots -/

/-- The values up to the first free slot. -/
theorem exists_first_free {slots : List (Option Value)} (h : none ∈ slots) :
    ∃ (given : List Value) (rest : List (Option Value)),
      slots = given.map some ++ none :: rest := by
  induction slots with
  | nil => cases h
  | cons value? rest ih =>
      cases value? with
      | none => exact ⟨[], rest, rfl⟩
      | some value =>
          obtain ⟨given, behind, rfl⟩ := ih (by simpa using h)
          exact ⟨value :: given, behind, rfl⟩

/-- The first free slot is reported. -/
theorem takeValues_of_free (position : Nat) (given : List Value) (rest : List (Option Value)) :
    takeValues position (given.map some ++ none :: rest) =
      .error (.unfilledPosition (position + given.length)) := by
  induction given generalizing position with
  | nil => rfl
  | cons value given ih =>
      have hnext : position + 1 + given.length = position + (value :: given).length := by
        rw [List.length_cons]
        omega
      rw [List.map_cons, List.cons_append, takeValues, ih, hnext]
      rfl

/-! ## Binding -/

namespace NamedText

variable {named : NamedText}

/-- Some name lists a position. -/
def Covers (named : NamedText) (position : Nat) : Prop :=
  ∃ entry ∈ named.positions.entries, position ∈ entry.2

/-- All positions of names are among the placeholders of the text. -/
def InRange (named : NamedText) : Prop :=
  ∀ entry ∈ named.positions.entries, ∀ position ∈ entry.2, 1 ≤ position ∧ position ≤ named.count

instance (named : NamedText) : Decidable named.InRange :=
  inferInstanceAs (Decidable (∀ entry ∈ named.positions.entries, ∀ position ∈ entry.2,
    1 ≤ position ∧ position ≤ named.count))

/-- The smallest name without a value. -/
structure IsFirstUnbound (named : NamedText) (values : String → Option Value) (name : String) :
    Prop where
  mem : name ∈ named.positions.entries.map Prod.fst
  unbound : values name = none
  least : ∀ entry ∈ named.positions.entries, values entry.1 = none → name ≤ entry.1

/-- The smallest position without a name. -/
structure IsFirstFree (named : NamedText) (position : Nat) : Prop where
  low : 1 ≤ position
  high : position ≤ named.count
  free : ¬ named.Covers position
  least : ∀ other, 1 ≤ other → other ≤ named.count → ¬ named.Covers other → position ≤ other

/-- No value is put where there is no slot. -/
theorem bind?_eq (hrange : named.InRange) (values : String → Option Value) :
    named.bind? values = some (named.bind values) := by
  have hslots : ∀ entry ∈ named.positions.entries, ∀ position ∈ entry.2,
      1 ≤ position ∧ position ≤ (List.replicate named.count (none : Option Value)).length := by
    rwa [List.length_replicate]
  rw [bind?, putValues?_eq values hslots]
  rfl

/-- The smallest name without a value is reported, whatever else is wrong. -/
theorem bind_eq_error_of_unbound
    (h : ∃ entry ∈ named.positions.entries, values entry.1 = none) :
    ∃ name, named.IsFirstUnbound values name ∧
      named.bind values = .error (.unboundParameter name) := by
  obtain ⟨missing, hmem, hnone, hle, hput⟩ :=
    putValues_eq_error named.positions.ascending h (List.replicate named.count none)
  refine ⟨missing.1, ⟨List.mem_map_of_mem hmem, hnone, hle⟩, ?_⟩
  rw [bind, hput]
  rfl

theorem isSome_of_bind_eq_ok {given : List Value} (h : named.bind values = .ok given) :
    ∀ entry ∈ named.positions.entries, (values entry.1).isSome := by
  intro entry hentry
  cases hvalue : values entry.1 with
  | some value => rfl
  | none =>
      obtain ⟨name, -, herror⟩ := bind_eq_error_of_unbound ⟨entry, hentry, hvalue⟩
      rw [h] at herror
      cases herror

/-! ### When all names have values -/

section Filled

variable {filled : List (Option Value)}
  (hput : putValues values named.positions.entries (List.replicate named.count none) = .ok filled)
include hput

theorem bind_eq_takeValues : named.bind values = takeValues 1 filled := by
  rw [bind, hput]
  rfl

variable (hrange : named.InRange)
include hrange

/-- There are as many slots as placeholders.  Each holds the value of the owner of its
position, and it is free if no name lists the position. -/
theorem filled_slots :
    filled.length = named.count ∧ ∀ position, 1 ≤ position → position ≤ named.count →
      (∀ entry, IsOwner named.positions.entries position entry →
        filled[position - 1]? = some (values entry.1)) ∧
      (¬ named.Covers position → filled[position - 1]? = some none) := by
  have hpositive : ∀ entry ∈ named.positions.entries, ∀ position ∈ entry.2, 1 ≤ position :=
    fun entry hentry position hposition => (hrange entry hentry position hposition).1
  obtain ⟨hlength, hslots⟩ := putValues_fills named.positions.ascending hpositive hput
  rw [List.length_replicate] at hlength hslots
  refine ⟨hlength, fun position hlow hhigh => ?_⟩
  have hindex : position - 1 < named.count := by omega
  have hslot := hslots (position - 1) hindex
  rw [Nat.sub_add_cancel hlow, List.getElem?_replicate, if_pos hindex] at hslot
  refine ⟨hslot.1, fun hfree => hslot.2 fun entry hentry hlists => ?_⟩
  exact hfree ⟨entry, hentry, hlists⟩

variable (hvalues : ∀ entry ∈ named.positions.entries, (values entry.1).isSome)
include hvalues

/-- When each position has a name, all slots are taken. -/
theorem bind_eq_ok_of_covers
    (hcovers : ∀ position, 1 ≤ position → position ≤ named.count → named.Covers position) :
    ∃ given, named.bind values = .ok given ∧ given.map some = filled := by
  obtain ⟨hlength, hslots⟩ := filled_slots hput hrange
  have htaken : ∀ value? ∈ filled, value?.isSome := by
    intro value? hvalue
    obtain ⟨index, hindex, rfl⟩ := List.mem_iff_getElem.mp hvalue
    have hcovered := hcovers (index + 1) (by omega) (by omega)
    obtain ⟨entry, howner⟩ := exists_isOwner named.positions.ascending hcovered
    have hslot := (hslots (index + 1) (by omega) (by omega)).1 entry howner
    rw [Nat.add_sub_cancel, List.getElem?_eq_getElem hindex] at hslot
    rw [Option.some.inj hslot]
    exact hvalues entry howner.mem
  obtain ⟨given, rfl⟩ := exists_map_some htaken
  refine ⟨given, ?_, rfl⟩
  rw [bind_eq_takeValues hput, takeValues_map_some]

/-- When a position has no name, the smallest such position is reported. -/
theorem bind_eq_error_of_not_covers
    (hfree : ∃ position, 1 ≤ position ∧ position ≤ named.count ∧ ¬ named.Covers position) :
    ∃ position, named.IsFirstFree position ∧
      named.bind values = .error (.unfilledPosition position) := by
  obtain ⟨hlength, hslots⟩ := filled_slots hput hrange
  have hmem : none ∈ filled := by
    obtain ⟨position, hlow, hhigh, hfree⟩ := hfree
    exact List.mem_of_getElem? ((hslots position hlow hhigh).2 hfree)
  obtain ⟨given, rest, rfl⟩ := exists_first_free hmem
  have hhigh : given.length + 1 ≤ named.count := by
    rw [← hlength, List.length_append, List.length_map, List.length_cons]
    omega
  refine ⟨given.length + 1, ⟨by omega, hhigh, fun hcovered => ?_, ?_⟩, ?_⟩
  · -- the value of an owner would stand in the slot
    obtain ⟨entry, howner⟩ := exists_isOwner named.positions.ascending hcovered
    have hslot := (hslots (given.length + 1) (by omega) hhigh).1 entry howner
    have hhere : (given.map some ++ none :: rest)[given.length]? = some none := by simp
    rw [Nat.add_sub_cancel, hhere] at hslot
    have hvalue := hvalues entry howner.mem
    rw [← Option.some.inj hslot] at hvalue
    cases hvalue
  · -- the slots before it are taken
    intro other hlow hother hfree
    refine Nat.le_of_not_lt fun hlt => ?_
    have hindex : other - 1 < given.length := by omega
    have hslot := (hslots other hlow hother).2 hfree
    rw [List.getElem?_append_left (by rwa [List.length_map]), List.getElem?_map,
      List.getElem?_eq_getElem hindex] at hslot
    cases hslot
  · rw [bind_eq_takeValues hput, takeValues_of_free, Nat.add_comm 1]

end Filled

/-! ### Any values -/

theorem covers_of_bind_eq_ok (hrange : named.InRange) {given : List Value}
    (h : named.bind values = .ok given) :
    ∀ position, 1 ≤ position → position ≤ named.count → named.Covers position := by
  intro position hlow hhigh
  have hvalues := isSome_of_bind_eq_ok h
  obtain ⟨filled, hput⟩ := exists_putValues_eq_ok hvalues (List.replicate named.count none)
  by_cases hcovered : named.Covers position
  · exact hcovered
  · obtain ⟨free, -, herror⟩ :=
      bind_eq_error_of_not_covers hput hrange hvalues ⟨position, hlow, hhigh, hcovered⟩
    rw [h] at herror
    cases herror

/-- Each position is given the value of its owner. -/
theorem given_of_bind_eq_ok (hrange : named.InRange) {given : List Value}
    (h : named.bind values = .ok given) :
    given.length = named.count ∧ ∀ position, 1 ≤ position → position ≤ named.count →
      ∃ entry, IsOwner named.positions.entries position entry ∧
        given[position - 1]? = values entry.1 := by
  have hvalues := isSome_of_bind_eq_ok h
  have hcovers := covers_of_bind_eq_ok hrange h
  obtain ⟨filled, hput⟩ := exists_putValues_eq_ok hvalues (List.replicate named.count none)
  obtain ⟨found, hfound, rfl⟩ := bind_eq_ok_of_covers hput hrange hvalues hcovers
  obtain rfl : found = given := Except.ok.inj (hfound.symm.trans h)
  obtain ⟨hlength, hslots⟩ := filled_slots hput hrange
  rw [List.length_map] at hlength
  refine ⟨hlength, fun position hlow hhigh => ?_⟩
  obtain ⟨entry, howner⟩ :=
    exists_isOwner named.positions.ascending (hcovers position hlow hhigh)
  have hslot := (hslots position hlow hhigh).1 entry howner
  have hindex : position - 1 < found.length := by omega
  rw [List.getElem?_map, List.getElem?_eq_getElem hindex] at hslot
  refine ⟨entry, howner, ?_⟩
  rw [List.getElem?_eq_getElem hindex]
  exact Option.some.inj hslot

/-- What is given for the placeholders of a text when values are bound to its names. -/
structure BindsExactly (named : NamedText) (values : String → Option Value) : Prop where
  in_range : named.bind? values = some (named.bind values)
  succeeds_iff : (∃ given, named.bind values = .ok given) ↔
    (∀ entry ∈ named.positions.entries, (values entry.1).isSome) ∧
      ∀ position, 1 ≤ position → position ≤ named.count → named.Covers position
  owners : ∀ given, named.bind values = .ok given → given.length = named.count ∧
    ∀ position, 1 ≤ position → position ≤ named.count →
      ∃ entry, IsOwner named.positions.entries position entry ∧
        given[position - 1]? = values entry.1
  unbound : (∃ entry ∈ named.positions.entries, values entry.1 = none) →
    ∃ name, named.IsFirstUnbound values name ∧
      named.bind values = .error (.unboundParameter name)
  unfilled : (∀ entry ∈ named.positions.entries, (values entry.1).isSome) →
    (∃ position, 1 ≤ position ∧ position ≤ named.count ∧ ¬ named.Covers position) →
    ∃ position, named.IsFirstFree position ∧
      named.bind values = .error (.unfilledPosition position)

/-- Binding succeeds exactly if every name has a value and every position has a name, and each
position is then given the value of its owner.  Otherwise the smallest name without a value is
reported, or else the smallest position without a name.  No position is without a slot. -/
theorem bind_exactly (hrange : named.InRange) (values : String → Option Value) :
    named.BindsExactly values := by
  refine ⟨bind?_eq hrange values, ⟨?_, ?_⟩, ?_, bind_eq_error_of_unbound, ?_⟩
  · rintro ⟨given, h⟩
    exact ⟨isSome_of_bind_eq_ok h, covers_of_bind_eq_ok hrange h⟩
  · rintro ⟨hvalues, hcovers⟩
    obtain ⟨filled, hput⟩ := exists_putValues_eq_ok hvalues (List.replicate named.count none)
    obtain ⟨given, hgiven, -⟩ := bind_eq_ok_of_covers hput hrange hvalues hcovers
    exact ⟨given, hgiven⟩
  · exact fun given h => given_of_bind_eq_ok hrange h
  · intro hvalues hfree
    obtain ⟨filled, hput⟩ := exists_putValues_eq_ok hvalues (List.replicate named.count none)
    exact bind_eq_error_of_not_covers hput hrange hvalues hfree

/-- Three names for two placeholders: one is listed twice by a name, the other by two names,
and one name has none. -/
def overlapping : NamedText where
  text := "? ?"
  positions := .ofList [("b", [2]), ("a", [1, 2, 1]), ("c", [])]
  count := 2

theorem bind_exactly_overlapping :
    overlapping.InRange ∧ overlapping.BindsExactly fun name => some (.string name) :=
  ⟨by decide, bind_exactly (by decide) _⟩

/-- The greater name has the placeholder that both list. -/
example : overlapping.bind (fun name => some (.string name)) =
    .ok [.string "a", .string "b"] := by
  rfl

end NamedText

end SqlText
