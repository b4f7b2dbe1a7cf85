/-!
# Positions of names

Which positions each name of a statement occupies.  The names are kept in
ascending order, and each of them once.
-/

namespace SqlText

/-- Names in ascending order, with the positions that each occupies. -/
structure Positions where
  entries : List (String × List Nat)
  ascending : entries.Pairwise fun first second => first.1 < second.1
deriving DecidableEq

namespace Positions

/-- No names. -/
def empty : Positions :=
  ⟨[], List.Pairwise.nil⟩

instance : Inhabited Positions := ⟨empty⟩

/-- The positions of a name. -/
def get? (positions : Positions) (name : String) : Option (List Nat) :=
  positions.entries.lookup name

/-- The number of names. -/
def size (positions : Positions) : Nat :=
  positions.entries.length

/-! ## Changing the positions of one name -/

/-- Puts `change` of what is known about a name in its place, or a new entry where
it belongs. -/
def changeEntry (name : String) (change : Option (List Nat) → List Nat) :
    List (String × List Nat) → List (String × List Nat)
  | [] => [(name, change none)]
  | (known, positions) :: rest =>
      if name < known then (name, change none) :: (known, positions) :: rest
      else if name = known then (known, change (some positions)) :: rest
      else (known, positions) :: changeEntry name change rest

private theorem mem_changeEntry {name : String} {change : Option (List Nat) → List Nat}
    {entries : List (String × List Nat)} {entry : String × List Nat}
    (h : entry ∈ changeEntry name change entries) :
    entry.1 = name ∨ ∃ old ∈ entries, entry.1 = old.1 := by
  induction entries with
  | nil => simp_all [changeEntry]
  | cons first rest ih => grind [changeEntry]

private theorem lt_of_not_lt_of_ne {name known : String} (hnlt : ¬name < known)
    (hne : name ≠ known) : known < name :=
  String.not_le.mp fun hle => hne (String.le_antisymm hle (String.not_lt.mp hnlt))

private theorem changeEntry_ascending (name : String)
    (change : Option (List Nat) → List Nat) {entries : List (String × List Nat)}
    (h : entries.Pairwise fun first second => first.1 < second.1) :
    (changeEntry name change entries).Pairwise fun first second => first.1 < second.1 := by
  induction entries with
  | nil => simp [changeEntry]
  | cons first rest ih =>
      obtain ⟨known, positions⟩ := first
      obtain ⟨hfirst, hrest⟩ := List.pairwise_cons.mp h
      rw [changeEntry]
      split
      · rename_i hlt
        refine List.pairwise_cons.mpr ⟨fun entry hentry => ?_, h⟩
        rcases List.mem_cons.mp hentry with rfl | hentry
        · exact hlt
        · exact String.lt_trans hlt (hfirst entry hentry)
      · rename_i hnlt
        split
        · exact List.pairwise_cons.mpr ⟨hfirst, hrest⟩
        · rename_i hne
          refine List.pairwise_cons.mpr ⟨fun entry hentry => ?_, ih hrest⟩
          rcases mem_changeEntry hentry with heq | ⟨old, hold, heq⟩
          · show known < entry.1
            rw [heq]
            exact lt_of_not_lt_of_ne hnlt hne
          · show known < entry.1
            rw [heq]
            exact hfirst old hold

/-- Gives a name the given positions, instead of those that it has. -/
def insert (positions : Positions) (name : String) (given : List Nat) : Positions :=
  ⟨changeEntry name (fun _ => given) positions.entries,
    changeEntry_ascending name _ positions.ascending⟩

/-- Gives a name one more position, after those that it has. -/
def record (positions : Positions) (name : String) (position : Nat) : Positions :=
  ⟨changeEntry name (fun known? => known?.getD [] ++ [position]) positions.entries,
    changeEntry_ascending name _ positions.ascending⟩

/-- The positions of names that are given in any order.  Of a name that is given
twice the later positions count. -/
def ofList (given : List (String × List Nat)) : Positions :=
  given.foldl (fun positions entry => positions.insert entry.1 entry.2) empty

/-- Records names at successive positions, the first of them at `position`. -/
def recordFrom (positions : Positions) : (position : Nat) → List String → Positions
  | _, [] => positions
  | position, name :: rest => (positions.record name position).recordFrom (position + 1) rest

/-- The positions of names, counted from `1` in the given order. -/
def ofNames (names : List String) : Positions :=
  empty.recordFrom 1 names

end Positions

end SqlText
