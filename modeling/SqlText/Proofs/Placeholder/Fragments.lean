import Mathlib.Data.List.Infix
import SqlText.Dialect.Presets
import SqlText.Proofs.Placeholder.Counting

/-!
# Numbering any text

Nothing is assumed about a text here: it may hold pieces of marks, and it may hold them
right next to a whole mark.  The four characters of the mark of an unnamed parameter differ
from each other, so two copies of it never overlap, and a mark that starts before a copy and
reaches into it does not exist.  Three things follow.

* There is exactly one way to cut a text at its marks (`splitSlots_eq_iff`), whoever looks
  for them and in whichever order.
* Searching for the first mark again and again, from left to right, cuts the text in this
  way (`SplitsAtSlots.replaceEach_eq`).  So it makes no difference whether every mark is
  replaced by the same text or the marks are numbered one after the other.
* A placeholder without reserved characters cannot be part of a mark, so pieces of marks on
  both sides of it stay pieces (`countSlots_numberSlots`).

```text
text        \x01 \x01 \x02 \x03 \x04 \x02 \x03 \x04
cut         f₀   mark                f₁
numbered    \x01 $1                  \x02 \x03 \x04
```
-/

namespace SqlText

/-! ## Cuts -/

/-- Characters that are cut at the marks of unnamed parameters: what stands before the first
mark, and what follows each of them.  No mark is left in between. -/
structure SplitsAtSlots (chars head : List Char) (tail : List (List Char)) : Prop where
  eq_intercalate : chars = slotMark.toList.intercalate (head :: tail)
  head : ¬ slotMark.toList <:+: head
  fragments : ∀ fragment ∈ tail, ¬ slotMark.toList <:+: fragment

namespace SplitsAtSlots

variable {chars head : List Char} {tail : List (List Char)}

theorem nil_iff : SplitsAtSlots chars head [] ↔ chars = head ∧ ¬ slotMark.toList <:+: head := by
  constructor
  · intro h
    exact ⟨by simpa using h.eq_intercalate, h.head⟩
  · rintro ⟨rfl, h⟩
    exact ⟨by simp, h, by simp⟩

/-- Behind the first mark the cut goes on. -/
theorem cons_iff {fragment : List Char} :
    SplitsAtSlots chars head (fragment :: tail) ↔
      ∃ rest, chars = head ++ (slotMark.toList ++ rest) ∧ ¬ slotMark.toList <:+: head ∧
        SplitsAtSlots rest fragment tail := by
  constructor
  · intro h
    have hchars : chars = head ++ (slotMark.toList ++
        slotMark.toList.intercalate (fragment :: tail)) := by
      rw [h.eq_intercalate, List.intercalate_cons_cons, List.append_assoc]
    refine ⟨_, hchars, h.head, rfl, h.fragments _ (List.mem_cons_self ..), ?_⟩
    exact fun other hother => h.fragments other (List.mem_cons_of_mem _ hother)
  · rintro ⟨rest, rfl, hhead, hrest⟩
    refine ⟨?_, hhead, List.forall_mem_cons.mpr ⟨hrest.head, hrest.fragments⟩⟩
    rw [hrest.eq_intercalate, List.intercalate_cons_cons, List.append_assoc]

end SplitsAtSlots

/-! ## Every cut is found -/

/-- The characters of a mark differ from the one with which it starts, so no mark begins in
a text and ends in the mark behind it. -/
theorem not_slotMark_prefix_of_append_mark {c : Char} {chars : List Char}
    (h : ¬ slotMark.toList <+: c :: chars) (rest : List Char) :
    ¬ slotMark.toList <+: c :: (chars ++ (slotMark.toList ++ rest)) := by
  intro hmark
  refine h (slotMark_prefix_of_append_of_ne_nil (List.cons_ne_nil c chars) ?_ hmark)
  intro next hnext
  obtain rfl : '\x01' = next := Option.some.inj hnext
  decide

theorem splitSlots_append_mark {chars : List Char} (h : ¬ slotMark.toList <:+: chars)
    (rest : List Char) :
    splitSlots (chars ++ (slotMark.toList ++ rest)) =
      (chars, (splitSlots rest).1 :: (splitSlots rest).2) := by
  induction chars with
  | nil => exact splitSlots_mark rest
  | cons c chars ih =>
      obtain ⟨hstart, hbehind⟩ := not_or.mp (mt List.infix_cons_iff.mpr h)
      rw [List.cons_append,
        splitSlots_cons_of_not_start (not_slotMark_prefix_of_append_mark hstart rest), ih hbehind]

theorem splitSlots_of_not_infix {chars : List Char} (h : ¬ slotMark.toList <:+: chars) :
    splitSlots chars = (chars, []) := by
  induction chars with
  | nil => rfl
  | cons c chars ih =>
      obtain ⟨hstart, hbehind⟩ := not_or.mp (mt List.infix_cons_iff.mpr h)
      rw [splitSlots_cons_of_not_start hstart, ih hbehind]

theorem SplitsAtSlots.splitSlots_eq {chars head : List Char} {tail : List (List Char)}
    (h : SplitsAtSlots chars head tail) : splitSlots chars = (head, tail) := by
  induction tail generalizing chars head with
  | nil =>
      obtain ⟨rfl, hhead⟩ := nil_iff.mp h
      exact splitSlots_of_not_infix hhead
  | cons fragment tail ih =>
      obtain ⟨rest, rfl, hhead, hrest⟩ := cons_iff.mp h
      rw [splitSlots_append_mark hhead, ih hrest]

/-! ## Whatever is found is a cut -/

/-- A character before a text that is cut belongs to what stands before the first mark,
unless it starts a mark itself. -/
theorem SplitsAtSlots.cons {c : Char} {chars head : List Char} {tail : List (List Char)}
    (h : SplitsAtSlots chars head tail) (hstart : ¬ slotMark.toList <+: c :: chars) :
    SplitsAtSlots (c :: chars) (c :: head) tail := by
  have hprefix : head <+: chars := by
    cases tail with
    | nil => rw [(nil_iff.mp h).1]
    | cons fragment tail =>
        obtain ⟨rest, rfl, -⟩ := cons_iff.mp h
        exact List.prefix_append _ _
  refine ⟨?_, ?_, h.fragments⟩
  · rw [h.eq_intercalate]
    cases tail <;> simp
  · rw [List.infix_cons_iff]
    rintro (hmark | hmark)
    · exact hstart (hmark.trans (List.cons_prefix_cons.mpr ⟨rfl, hprefix⟩))
    · exact h.head hmark

theorem splitsAtSlots_splitSlots (chars : List Char) :
    SplitsAtSlots chars (splitSlots chars).1 (splitSlots chars).2 := by
  have hempty : ¬ slotMark.toList <:+: [] := by decide
  induction chars using splitSlots.induct with
  | case1 => exact SplitsAtSlots.nil_iff.mpr ⟨rfl, hempty⟩
  | case2 rest _ _ _ ih => exact SplitsAtSlots.cons_iff.mpr ⟨rest, rfl, hempty, ih⟩
  | case3 c rest hstart _ _ _ ih =>
      have hnot : ¬ slotMark.toList <+: c :: rest := by
        rintro ⟨tail, htail⟩
        obtain ⟨rfl, rfl⟩ := List.cons.inj htail
        exact hstart tail rfl rfl
      rw [splitSlots_cons_of_not_start hnot]
      exact ih.cons hnot

/-- What is found is a cut, and the only one. -/
theorem splitSlots_eq_iff {chars head : List Char} {tail : List (List Char)} :
    splitSlots chars = (head, tail) ↔ SplitsAtSlots chars head tail := by
  constructor
  · intro h
    have hsplits := splitsAtSlots_splitSlots chars
    rwa [h] at hsplits
  · exact SplitsAtSlots.splitSlots_eq

/-! ## Searching for marks -/

/-- The place of the first mark of an unnamed parameter. -/
def findSlot? (chars : List Char) : Option Nat :=
  chars.tails.findIdx? slotMark.toList.isPrefixOf

theorem findSlot?_eq_none {chars : List Char} (h : ¬ slotMark.toList <:+: chars) :
    findSlot? chars = none := by
  refine List.findIdx?_eq_none_iff.mpr fun suffix hsuffix => ?_
  rw [Bool.eq_false_iff, Ne, List.isPrefixOf_iff_prefix]
  intro hmark
  exact h (hmark.isInfix.trans ((List.mem_tails _ _).mp hsuffix).isInfix)

theorem findSlot?_cons_of_not_start {c : Char} {chars : List Char}
    (h : ¬ slotMark.toList <+: c :: chars) :
    findSlot? (c :: chars) = (findSlot? chars).map (· + 1) := by
  rw [← List.isPrefixOf_iff_prefix] at h
  rw [findSlot?, List.tails_cons, List.findIdx?_cons, if_neg h, findSlot?]

/-- A search finds a mark if there is none in the text before it. -/
theorem findSlot?_append_mark {chars : List Char} (h : ¬ slotMark.toList <:+: chars)
    (rest : List Char) : findSlot? (chars ++ (slotMark.toList ++ rest)) = some chars.length := by
  induction chars with
  | nil => rfl
  | cons c chars ih =>
      obtain ⟨hstart, hbehind⟩ := not_or.mp (mt List.infix_cons_iff.mpr h)
      rw [List.cons_append,
        findSlot?_cons_of_not_start (not_slotMark_prefix_of_append_mark hstart rest), ih hbehind]
      rfl

theorem lt_length_of_findSlot? {chars : List Char} {start : Nat}
    (h : findSlot? chars = some start) : start < chars.length := by
  obtain ⟨hlt, hmark, -⟩ := List.findIdx?_eq_some_iff_getElem.mp h
  rw [List.getElem_tails, List.isPrefixOf_iff_prefix] at hmark
  have hlength := hmark.length_le
  rw [List.length_drop] at hlength
  have hfour : slotMark.toList.length = 4 := rfl
  omega

/-- Puts a replacement in the place of the first mark, the next one in the place of the first
mark behind it, and so on until there is none. -/
def replaceEach (replacement : Nat → List Char) (position : Nat) (chars : List Char) :
    List Char :=
  match _ : findSlot? chars with
  | none => chars
  | some start =>
      chars.take start ++ replacement position ++
        replaceEach replacement (position + 1) (chars.drop (start + slotMark.length))
  termination_by chars.length
  decreasing_by
    have hlt := lt_length_of_findSlot? ‹findSlot? chars = some start›
    have hfour : slotMark.length = 4 := rfl
    rw [List.length_drop]
    omega

theorem SplitsAtSlots.replaceEach_eq {chars head : List Char} {tail : List (List Char)}
    (h : SplitsAtSlots chars head tail) (replacement : Nat → List Char) (position : Nat) :
    replaceEach replacement position chars =
      head ++ (tail.mapIdx fun index fragment =>
        replacement (position + index) ++ fragment).flatten := by
  induction tail generalizing chars head position with
  | nil =>
      obtain ⟨rfl, hhead⟩ := nil_iff.mp h
      rw [replaceEach]
      split
      case h_1 => simp
      case h_2 hfound => rw [findSlot?_eq_none hhead] at hfound; cases hfound
  | cons fragment tail ih =>
      obtain ⟨rest, rfl, hhead, hrest⟩ := cons_iff.mp h
      have hfound := findSlot?_append_mark hhead rest
      rw [replaceEach]
      split
      case h_1 hnone => rw [hfound] at hnone; cases hnone
      case h_2 start hstart =>
        obtain rfl : head.length = start := Option.some.inj (hfound.symm.trans hstart)
        have hdrop : (head ++ (slotMark.toList ++ rest)).drop (head.length + slotMark.length) =
            rest := by
          rw [← List.drop_drop, List.drop_left]
          exact List.drop_left
        have hnext : ∀ index, position + 1 + index = position + (index + 1) :=
          fun index => by omega
        rw [List.take_left, hdrop, ih hrest]
        simp only [hnext, List.mapIdx_cons, List.flatten_cons, Nat.add_zero, List.append_assoc]

/-! ## Numbering a cut -/

theorem fillSlots_eq_flatten (dialect : Dialect) (position : Nat) (tail : List (List Char)) :
    fillSlots dialect position tail =
      (tail.mapIdx fun index fragment =>
        (dialect.placeholder (position + index)).toList ++ fragment).flatten := by
  induction tail generalizing position with
  | nil => rfl
  | cons fragment tail ih =>
      have hnext : ∀ index, position + 1 + index = position + (index + 1) := fun index => by omega
      simp only [fillSlots, ih, List.mapIdx_cons, List.flatten_cons, Nat.add_zero, hnext]

/-- Fragments, each after the same text, are the fragments with this text between. -/
theorem append_flatten_mapIdx_const (text head : List Char) (tail : List (List Char)) :
    head ++ (tail.mapIdx fun _ fragment => text ++ fragment).flatten =
      text.intercalate (head :: tail) := by
  induction tail generalizing head with
  | nil => simp
  | cons fragment tail ih =>
      rw [List.mapIdx_cons, List.flatten_cons, List.intercalate_cons_cons, ← ih fragment,
        List.append_assoc, List.append_assoc]

/-- A text is numbered by putting a placeholder in the place of each mark where it is cut.
The placeholders are all the same, or each has the number of its mark. -/
structure Dialect.NumbersCut (dialect : Dialect) (text : String) (head : List Char)
    (tail : List (List Char)) : Prop where
  bare : dialect.numbersParameters = false →
    (numberSlots dialect text).toList =
      (dialect.text .numberedParameter).toList.intercalate (head :: tail)
  counted : dialect.numbersParameters = true →
    (numberSlots dialect text).toList =
      head ++ (tail.mapIdx fun index fragment =>
        (dialect.text .numberedParameter ++ toString (index + 1)).toList ++ fragment).flatten
  searched : (numberSlots dialect text).toList =
    replaceEach (fun position => (dialect.placeholder position).toList) 1 text.toList

theorem SplitsAtSlots.numbersCut {text : String} {head : List Char} {tail : List (List Char)}
    (h : SplitsAtSlots text.toList head tail) (dialect : Dialect) :
    dialect.NumbersCut text head tail := by
  have hnumber : (numberSlots dialect text).toList = head ++ (tail.mapIdx fun index fragment =>
      (dialect.placeholder (1 + index)).toList ++ fragment).flatten := by
    simp only [numberSlots, h.splitSlots_eq, String.toList_ofList, fillSlots_eq_flatten]
  refine ⟨fun hbare => ?_, fun hcounted => ?_, ?_⟩
  · simp only [hnumber, Dialect.placeholder, hbare, Bool.false_eq_true, if_false,
      append_flatten_mapIdx_const]
  · simp only [hnumber, Dialect.placeholder, hcounted, if_true, Nat.add_comm 1]
  · rw [hnumber, h.replaceEach_eq]

/-! ## Numbering twice -/

section Markers

variable {dialect : Dialect} (hne : dialect.text .numberedParameter ≠ "")
  (hplain : Text.Plain (dialect.text .numberedParameter))
include hne hplain

/-- Placeholders have no marks, and they keep the fragments around them apart. -/
theorem countSlots_append_fillSlots (position : Nat) {tail : List (List Char)}
    (htail : ∀ fragment ∈ tail, ¬ slotMark.toList <:+: fragment) (chars : List Char) :
    countSlots (String.ofList (chars ++ fillSlots dialect position tail)) =
      countSlots (String.ofList chars) := by
  induction tail generalizing position chars with
  | nil => rw [fillSlots, List.append_nil]
  | cons fragment tail ih =>
      obtain ⟨hfragment, hothers⟩ := List.forall_mem_cons.mp htail
      have hplaceholder := dialect.plain_placeholder hplain position
      have hmarker := dialect.placeholder_ne_empty hne position
      have hnone : countSlots (String.ofList fragment) = 0 :=
        countSlots_eq_zero_iff.mpr (by rwa [String.toList_ofList])
      have hbehind : countSlots (String.ofList (fragment ++ fillSlots dialect (position + 1) tail)) =
          0 := by
        rw [ih (position + 1) hothers, hnone]
      calc countSlots (String.ofList (chars ++ fillSlots dialect position (fragment :: tail)))
          = countSlots (String.ofList chars ++ dialect.placeholder position ++
              String.ofList (fragment ++ fillSlots dialect (position + 1) tail)) := by
            simp only [fillSlots, String.ofList_append, String.ofList_toList, String.append_assoc]
        _ = countSlots (String.ofList chars) + 0 := by
            rw [countSlots_separated hplaceholder hmarker, hbehind]
        _ = countSlots (String.ofList chars) := Nat.add_zero _

/-- A text that was numbered has no marks left. -/
theorem countSlots_numberSlots (text : String) : countSlots (numberSlots dialect text) = 0 := by
  have hsplits := splitsAtSlots_splitSlots text.toList
  show countSlots (String.ofList ((splitSlots text.toList).1 ++
    fillSlots dialect 1 (splitSlots text.toList).2)) = 0
  rw [countSlots_append_fillSlots hne hplain 1 hsplits.fragments, countSlots_eq_zero_iff,
    String.toList_ofList]
  exact hsplits.head

end Markers

/-- A text without marks stays as it is. -/
theorem numberSlots_of_countSlots_eq_zero {text : String} (h : countSlots text = 0)
    (dialect : Dialect) : numberSlots dialect text = text := by
  have hnone := splitSlots_of_not_infix (countSlots_eq_zero_iff.mp h)
  simp only [numberSlots, hnone, fillSlots, List.append_nil, String.ofList_toList]

/-! ## Any text -/

/-- A text can be cut at the marks of unnamed parameters in exactly one way, and the marks
that are counted are those of the cut.  Numbering puts placeholders in their places, in every
dialect and whether it searches for the marks or takes the cut.  If the marker of the dialect
is not empty and has no reserved character, then there are no marks in what was numbered, and
it stays as it is if it is numbered once more, in this dialect or in another one. -/
theorem numberSlots_cuts (text : String) :
    ∃ head tail, SplitsAtSlots text.toList head tail ∧
      (∀ other others, SplitsAtSlots text.toList other others → other = head ∧ others = tail) ∧
      countSlots text = tail.length ∧
      ∀ dialect : Dialect, dialect.NumbersCut text head tail ∧
        (dialect.text .numberedParameter ≠ "" → Text.Plain (dialect.text .numberedParameter) →
          ¬ slotMark.toList <:+: (numberSlots dialect text).toList ∧
            countSlots (numberSlots dialect text) = 0 ∧
            ∀ other : Dialect,
              numberSlots other (numberSlots dialect text) = numberSlots dialect text) := by
  obtain ⟨head, tail, hsplit⟩ : ∃ head tail, splitSlots text.toList = (head, tail) := ⟨_, _, rfl⟩
  have hsplits : SplitsAtSlots text.toList head tail := splitSlots_eq_iff.mp hsplit
  refine ⟨head, tail, hsplits, fun other others hother => ?_, ?_, fun dialect => ?_⟩
  · have hsame := (splitSlots_eq_iff.mpr hother).symm.trans hsplit
    exact Prod.mk.inj hsame
  · rw [countSlots, hsplit]
  · refine ⟨hsplits.numbersCut dialect, fun hne hplain => ?_⟩
    have hnone := countSlots_numberSlots hne hplain text
    exact ⟨countSlots_eq_zero_iff.mp hnone, hnone, numberSlots_of_countSlots_eq_zero hnone⟩

/-- Pieces of marks on both sides of a mark do not become a mark when it is replaced. -/
theorem numberSlots_cuts_pieces :
    countSlots (numberSlots .postgres "\x01\x01\x02\x03\x04\x02\x03\x04") = 0 ∧
      numberSlots .mysql (numberSlots .postgres "\x01\x01\x02\x03\x04\x02\x03\x04") =
        "\x01$1\x02\x03\x04" := by
  obtain ⟨_, _, -, -, -, h⟩ := numberSlots_cuts "\x01\x01\x02\x03\x04\x02\x03\x04"
  obtain ⟨-, hcount, hagain⟩ := (h .postgres).2 (by decide) (by decide)
  exact ⟨hcount, hagain .mysql⟩

end SqlText
