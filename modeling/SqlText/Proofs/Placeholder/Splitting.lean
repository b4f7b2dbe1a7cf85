import Mathlib.Data.List.Chain
import Mathlib.Data.List.Nodup
import SqlText.Dialect.Presets
import SqlText.Proofs.Placeholder.Binding
import SqlText.Proofs.Placeholder.Marks

/-!
# Resolving any text

Nothing is assumed about a text here: it may have marks that do not end, ends without a
start, and characters of marks anywhere else.  A mark has two characters that differ, so
it cannot overlap with another copy of itself, and the first mark in a fragment with a
mark behind it is that mark.  Three things follow.

* There is at most one way to split a text at its names (`splitNames?_eq_some_iff`).
* It is found from left to right, and what has no such split has a name without an end
  (`resolveNames_splits`).
* A placeholder without reserved characters cannot finish a mark that starts before it,
  so a text that was resolved has no names left (`not_nameStart_infix_fillNames`).

```text
text       \x05 \x05 \x06 a \x06 \x06 \x05 \x05
split      f₀   start     n₁     end       f₁
```
-/

namespace SqlText

/-! ## Two characters in a row -/

/-- Two characters do not stand next to each other exactly if neighbours never are these
two. -/
theorem not_pair_infix_iff {x y : Char} {chars : List Char} :
    ¬ [x, y] <:+: chars ↔ chars.IsChain fun first second => first = x → second ≠ y := by
  rw [List.isChain_iff_forall_rel_of_append_cons_cons]
  constructor
  · rintro h first second before after rfl rfl rfl
    exact h ⟨before, after, by simp⟩
  · rintro h ⟨before, after, heq⟩
    have hneighbours : chars = before ++ x :: y :: after := by simpa using heq.symm
    exact h hneighbours rfl rfl

theorem toList_nameStart : nameStart.toList = ['\x05', '\x06'] := rfl

theorem toList_nameEnd : nameEnd.toList = ['\x06', '\x05'] := rfl

/-! ## Splits -/

/-- Characters that are split at the marks of names: what stands before the first mark,
and every name with what follows its mark.  There is no start of a name outside of the
marks, and no end of one in a name. -/
structure SplitsAtNames (chars head : List Char) (tail : List (List Char × List Char)) :
    Prop where
  eq_append : chars = head ++
    tail.flatMap fun entry => nameStart.toList ++ entry.1 ++ nameEnd.toList ++ entry.2
  head : ¬ nameStart.toList <:+: head
  fragments : ∀ entry ∈ tail, ¬ nameStart.toList <:+: entry.2
  names : ∀ entry ∈ tail, ¬ nameEnd.toList <:+: entry.1

namespace SplitsAtNames

variable {chars head : List Char} {tail : List (List Char × List Char)}

theorem nil_iff : SplitsAtNames chars head [] ↔ chars = head ∧ ¬ nameStart.toList <:+: head := by
  constructor
  · intro h
    exact ⟨by simpa using h.eq_append, h.head⟩
  · rintro ⟨rfl, h⟩
    exact ⟨by simp, h, by simp, by simp⟩

/-- Behind the first name the split goes on. -/
theorem cons_iff {name fragment : List Char} :
    SplitsAtNames chars head ((name, fragment) :: tail) ↔
      ∃ rest, chars = head ++ (nameStart.toList ++ (name ++ (nameEnd.toList ++ rest))) ∧
        ¬ nameStart.toList <:+: head ∧ ¬ nameEnd.toList <:+: name ∧
        SplitsAtNames rest fragment tail := by
  constructor
  · intro h
    refine ⟨_, by simpa using h.eq_append, h.head, h.names _ (List.mem_cons_self ..), rfl,
      h.fragments _ (List.mem_cons_self ..), ?_, ?_⟩
    · exact fun entry hentry => h.fragments entry (List.mem_cons_of_mem _ hentry)
    · exact fun entry hentry => h.names entry (List.mem_cons_of_mem _ hentry)
  · rintro ⟨rest, rfl, hhead, hname, hrest⟩
    refine ⟨by simp [hrest.eq_append], hhead, ?_, ?_⟩
    · exact List.forall_mem_cons.mpr ⟨hrest.head, hrest.fragments⟩
    · exact List.forall_mem_cons.mpr ⟨hname, hrest.names⟩

/-- A character before a split text belongs to what stands before the first mark, unless
it starts a mark itself. -/
theorem cons {c : Char} (h : SplitsAtNames chars head tail)
    (hstart : ∀ rest, c = '\x05' → chars ≠ '\x06' :: rest) :
    SplitsAtNames (c :: chars) (c :: head) tail := by
  refine ⟨by rw [h.eq_append]; rfl, ?_, h.fragments, h.names⟩
  rw [toList_nameStart, List.infix_cons_iff]
  rintro (⟨rest, hrest⟩ | hinfix)
  · obtain ⟨rfl, hhead⟩ := List.cons.inj hrest
    have hnext : chars = '\x06' :: (rest ++
        tail.flatMap fun entry => nameStart.toList ++ entry.1 ++ nameEnd.toList ++ entry.2) := by
      rw [h.eq_append, ← hhead]
      rfl
    exact hstart _ rfl hnext
  · exact h.head hinfix

end SplitsAtNames

/-! ## Every split is found -/

/-- A mark would have to start among the last characters of a fragment to be found
before its end, and those behind the fragment do not let it. -/
theorem splitNames?_append_of_no_start {chars rest : List Char}
    (hchars : ¬ nameStart.toList <:+: chars) (hrest : rest.head? ≠ some '\x06') :
    splitNames? (chars ++ rest) =
      (splitNames? rest).map fun split => (chars ++ split.1, split.2) := by
  induction chars with
  | nil => simp
  | cons c chars ih =>
      have hstart : ∀ more, c = '\x05' → chars ++ rest ≠ '\x06' :: more := by
        rintro more rfl hmore
        cases chars with
        | nil => exact hrest (by rw [List.nil_append] at hmore; rw [hmore]; rfl)
        | cons next chars =>
            obtain ⟨rfl, -⟩ := List.cons.inj hmore
            exact hchars ⟨[], chars, rfl⟩
      have hbehind : ¬ nameStart.toList <:+: chars :=
        fun hinfix => hchars (List.infix_cons hinfix)
      rw [List.cons_append, splitNames?_cons_of_not_start hstart, ih hbehind, Option.map_map]
      rfl

theorem SplitsAtNames.splitNames?_eq {chars head : List Char}
    {tail : List (List Char × List Char)} (h : SplitsAtNames chars head tail) :
    splitNames? chars = some (head, tail) := by
  induction tail generalizing chars head with
  | nil =>
      obtain ⟨rfl, hhead⟩ := nil_iff.mp h
      have hsplit : splitNames? (chars ++ []) = _ :=
        splitNames?_append_of_no_start hhead (by simp)
      simpa [splitNames?] using hsplit
  | cons entry tail ih =>
      obtain ⟨name, fragment⟩ := entry
      obtain ⟨rest, rfl, hhead, hname, hrest⟩ := cons_iff.mp h
      have hmark : splitNames? (nameStart.toList ++ (name ++ (nameEnd.toList ++ rest))) =
          some ([], (name, fragment) :: tail) := by
        show splitNames? ('\x05' :: '\x06' :: (name ++ (nameEnd.toList ++ rest))) = _
        rw [splitNames?, splitInName?_append hname, ih hrest]
        rfl
      rw [splitNames?_append_of_no_start hhead (by simp [toList_nameStart]), hmark]
      simp

/-! ## Whatever is found is a split -/

/-- Scanning outside of names finds splits, and scanning within a name finds its end and
a split of what follows it. -/
theorem splitsAtNames_of_scan :
    (∀ chars head tail, splitNames? chars = some (head, tail) → SplitsAtNames chars head tail) ∧
      ∀ chars name fragment tail, splitInName? chars = some (name, fragment, tail) →
        ∃ rest, chars = name ++ (nameEnd.toList ++ rest) ∧ ¬ nameEnd.toList <:+: name ∧
          SplitsAtNames rest fragment tail := by
  have hempty : ¬ nameEnd.toList <:+: [] := by decide
  refine splitNames?.mutual_induct
    (fun chars => ∀ head tail, splitNames? chars = some (head, tail) →
      SplitsAtNames chars head tail)
    (fun chars => ∀ name fragment tail, splitInName? chars = some (name, fragment, tail) →
      ∃ rest, chars = name ++ (nameEnd.toList ++ rest) ∧ ¬ nameEnd.toList <:+: name ∧
        SplitsAtNames rest fragment tail) ?_ ?_ ?_ ?_ ?_ ?_
  · intro head tail h
    obtain ⟨rfl, rfl⟩ := Prod.mk.inj (Option.some.inj h)
    exact SplitsAtNames.nil_iff.mpr ⟨rfl, by decide⟩
  · intro rest ih head tail h
    rw [splitNames?] at h
    obtain ⟨⟨name, fragment, others⟩, hname, h⟩ := Option.bind_eq_some_iff.mp h
    obtain ⟨rfl, rfl⟩ := Prod.mk.inj (Option.some.inj h)
    obtain ⟨behind, rfl, hend, hbehind⟩ := ih name fragment others hname
    exact SplitsAtNames.cons_iff.mpr ⟨behind, rfl, by decide, hend, hbehind⟩
  · intro c rest hstart ih head tail h
    rw [splitNames?_cons_of_not_start hstart] at h
    obtain ⟨split, hsplit, h⟩ := Option.map_eq_some_iff.mp h
    obtain ⟨rfl, rfl⟩ := Prod.mk.inj h
    exact (ih split.1 split.2 hsplit).cons hstart
  · intro name fragment tail h
    cases h
  · intro rest ih name fragment tail h
    rw [splitInName?] at h
    obtain ⟨split, hsplit, hfound⟩ := Option.bind_eq_some_iff.mp h
    obtain ⟨rfl, hbehind⟩ := Prod.mk.inj (Option.some.inj hfound)
    obtain ⟨rfl, rfl⟩ := Prod.mk.inj hbehind
    exact ⟨rest, rfl, hempty, ih split.1 split.2 hsplit⟩
  · intro c rest hend ih name fragment tail h
    rw [splitInName?_cons_of_not_end hend] at h
    obtain ⟨⟨inner, others⟩, hinner, hfound⟩ := Option.map_eq_some_iff.mp h
    obtain ⟨rfl, hothers⟩ := Prod.mk.inj hfound
    obtain ⟨rfl, rfl⟩ := Prod.mk.inj hothers
    obtain ⟨behind, rfl, hname, hbehind⟩ := ih inner others.1 others.2 hinner
    refine ⟨behind, rfl, ?_, hbehind⟩
    rw [toList_nameEnd, List.infix_cons_iff]
    rintro (⟨more, hmore⟩ | hinfix)
    · obtain ⟨rfl, hnext⟩ := List.cons.inj hmore
      have hinner : inner = '\x05' :: more := hnext.symm
      subst hinner
      exact hend (more ++ (nameEnd.toList ++ behind)) rfl rfl
    · exact hname hinfix

/-- Scanning finds a split exactly if it is one, so there is at most one. -/
theorem splitNames?_eq_some_iff {chars head : List Char} {tail : List (List Char × List Char)} :
    splitNames? chars = some (head, tail) ↔ SplitsAtNames chars head tail :=
  ⟨splitsAtNames_of_scan.1 chars head tail, SplitsAtNames.splitNames?_eq⟩

/-! ## Filling a split -/

/-- A text becomes what stands before its first name, and then, for each name in turn,
the placeholder at its position with what follows the name.  The names have these
positions, and every position belongs to one name. -/
structure NamedText.Fills (named : NamedText) (dialect : Dialect) (head : List Char)
    (tail : List (List Char × List Char)) : Prop where
  text_eq : named.text = String.ofList (head ++
    (tail.mapIdx fun index entry => (dialect.placeholder (index + 1)).toList ++ entry.2).flatten)
  count_eq : named.count = tail.length
  locates : named.positions.Locates (tail.map fun entry => String.ofList entry.1)
  once : ∀ position, 1 ≤ position → position ≤ named.count →
    ∃ entry ∈ named.positions.entries, entry.2.count position = 1 ∧
      ∀ other ∈ named.positions.entries, position ∈ other.2 → other = entry

theorem fillNames_eq_flatten (dialect : Dialect) (position : Nat)
    (tail : List (List Char × List Char)) :
    fillNames dialect position tail =
      (tail.mapIdx fun index entry =>
        (dialect.placeholder (position + index)).toList ++ entry.2).flatten := by
  induction tail generalizing position with
  | nil => rfl
  | cons entry tail ih =>
      have hnext : ∀ index, position + 1 + index = position + (index + 1) := fun index => by omega
      simp only [fillNames, ih, List.mapIdx_cons, List.flatten_cons, Nat.add_zero, hnext]

namespace Positions

variable {positions : Positions} {names : List String}

/-- Each position among located names is that of one name, and is listed once there. -/
theorem Locates.exists_entry (h : positions.Locates names) {position : Nat}
    (hlow : 1 ≤ position) (hhigh : position ≤ names.length) :
    ∃ entry ∈ positions.entries, entry.2.count position = 1 ∧
      ∀ other ∈ positions.entries, position ∈ other.2 → other = entry := by
  have hlt : position - 1 < names.length := by omega
  have hget : names[position - 1]? = some names[position - 1] := List.getElem?_eq_getElem hlt
  have hmem : names[position - 1] ∈ names := List.getElem_mem hlt
  refine ⟨_, h.mem_keys hmem, ?_, ?_⟩
  · have hnodup : (indicesOf names[position - 1] names).Nodup :=
      (pairwise_indicesOf _ names).imp Nat.ne_of_lt
    exact List.count_eq_one_of_mem hnodup (mem_indicesOf.mpr ⟨hlow, hget⟩)
  · intro other hother hposition
    have hlisted : other.2 = indicesOf other.1 names := (h.eq_indicesOf hother).2
    rw [hlisted] at hposition
    have hname : names[position - 1] = other.1 :=
      Option.some.inj (hget.symm.trans (mem_indicesOf.mp hposition).2)
    rw [hname, ← hlisted]

end Positions

/-- Resolving a text that is split at its names fills the split. -/
theorem SplitsAtNames.exists_resolveNames {text : String} {head : List Char}
    {tail : List (List Char × List Char)} (h : SplitsAtNames text.toList head tail)
    (dialect : Dialect) :
    ∃ named, resolveNames dialect text = .ok named ∧ named.Fills dialect head tail := by
  have hlocates := Positions.locates_ofNames (tail.map fun entry => String.ofList entry.1)
  refine ⟨_, by rw [resolveNames, h.splitNames?_eq], ?_, rfl, hlocates, ?_⟩
  · simp only [fillNames_eq_flatten, Nat.add_comm 1]
  · intro position hlow hhigh
    exact hlocates.exists_entry hlow (by simpa using hhigh)

/-! ## Resolving twice -/

theorem not_nameStart_infix_of_plain {text : String} (h : Text.Plain text) :
    ¬ nameStart.toList <:+: text.toList := by
  intro hinfix
  have hmem : '\x05' ∈ text.toList := hinfix.subset (by simp [toList_nameStart])
  exact ne_of_plain h (by decide) _ hmem rfl

/-- Where two texts meet, a mark only comes about if both of its characters are there. -/
theorem not_nameStart_infix_append {first second : List Char}
    (hfirst : ¬ nameStart.toList <:+: first) (hsecond : ¬ nameStart.toList <:+: second)
    (hmeet : '\x05' ∈ first.getLast? → '\x06' ∉ second.head?) :
    ¬ nameStart.toList <:+: first ++ second := by
  rw [toList_nameStart, not_pair_infix_iff] at hfirst hsecond ⊢
  refine List.isChain_append.mpr ⟨hfirst, hsecond, ?_⟩
  rintro x hx y hy rfl rfl
  exact hmeet hx hy

section Markers

variable {dialect : Dialect} (hne : dialect.text .numberedParameter ≠ "")
  (hplain : Text.Plain (dialect.text .numberedParameter))
include hne hplain

/-- What follows a placeholder starts with the next placeholder or not at all. -/
theorem not_mem_head?_fillNames (position : Nat) (tail : List (List Char × List Char)) :
    '\x06' ∉ (fillNames dialect position tail).head? := by
  cases tail with
  | nil => simp [fillNames]
  | cons entry tail =>
      have hreserved : ∀ c ∈ (dialect.placeholder position).toList, c ≠ '\x06' :=
        ne_of_plain (dialect.plain_placeholder hplain position) (by decide)
      have hmarker : (dialect.placeholder position).toList ≠ [] := by
        simpa using dialect.placeholder_ne_empty hne position
      obtain ⟨c, rest, hchars⟩ := List.exists_cons_of_ne_nil hmarker
      rw [fillNames, hchars]
      intro hhead
      obtain rfl : c = '\x06' := Option.some.inj hhead
      exact hreserved _ (by rw [hchars]; exact List.mem_cons_self ..) rfl

/-- Fragments without the start of a name, with placeholders between, have none. -/
theorem not_nameStart_infix_fillNames (position : Nat) {tail : List (List Char × List Char)}
    (htail : ∀ entry ∈ tail, ¬ nameStart.toList <:+: entry.2) :
    ¬ nameStart.toList <:+: fillNames dialect position tail := by
  induction tail generalizing position with
  | nil => exact (by decide : ¬ nameStart.toList <:+: [])
  | cons entry tail ih =>
      obtain ⟨hfragment, hothers⟩ := List.forall_mem_cons.mp htail
      have hplaceholder := dialect.plain_placeholder hplain position
      have hbehind := not_nameStart_infix_append hfragment (ih (position + 1) hothers)
        fun _ => not_mem_head?_fillNames hne hplain (position + 1) tail
      rw [fillNames, List.append_assoc]
      refine not_nameStart_infix_append (not_nameStart_infix_of_plain hplaceholder) hbehind ?_
      intro hlast
      exact absurd rfl (ne_of_plain hplaceholder (by decide) _ (List.mem_of_getLast? hlast))

/-- A text that was resolved has no names left. -/
theorem resolveNames_of_resolveNames {text : String} {named : NamedText}
    (h : resolveNames dialect text = .ok named) :
    resolveNames dialect named.text = .ok ⟨named.text, .empty, 0⟩ := by
  rw [resolveNames] at h
  split at h
  case h_1 => cases h
  case h_2 head tail hsplit =>
    have hsplits := splitNames?_eq_some_iff.mp hsplit
    obtain rfl := Except.ok.inj h
    have hnone : ¬ nameStart.toList <:+: head ++ fillNames dialect 1 tail :=
      not_nameStart_infix_append hsplits.head
        (not_nameStart_infix_fillNames hne hplain 1 hsplits.fragments)
        fun _ => not_mem_head?_fillNames hne hplain 1 tail
    have hwhole := (SplitsAtNames.nil_iff.mpr ⟨rfl, hnone⟩).splitNames?_eq
    rw [resolveNames, String.toList_ofList, hwhole]
    simp [fillNames, Positions.ofNames, Positions.recordFrom]

end Markers

/-! ## Any text -/

/-- Resolving succeeds exactly for texts that can be split at their names.  There is one
such split, and it is filled with placeholders; a text without one has a name without an
end.  What was resolved stays as it is if it is resolved once more. -/
theorem resolveNames_fills_iff (dialect : Dialect) (text : String) :
    ((∃ named, resolveNames dialect text = .ok named) ↔
        ∃ head tail, SplitsAtNames text.toList head tail) ∧
      (∀ head tail, SplitsAtNames text.toList head tail →
        (∀ other others, SplitsAtNames text.toList other others →
          other = head ∧ others = tail) ∧
        ∃ named, resolveNames dialect text = .ok named ∧ named.Fills dialect head tail) ∧
      ((¬ ∃ head tail, SplitsAtNames text.toList head tail) →
        ∃ fault, resolveNames dialect text = .error fault ∧ fault.kind = .malformed ∧
          fault.message = "unterminated named parameter sentinel") ∧
      (dialect.text .numberedParameter ≠ "" →
        Text.Plain (dialect.text .numberedParameter) →
        ∀ named, resolveNames dialect text = .ok named →
          resolveNames dialect named.text = .ok ⟨named.text, .empty, 0⟩) := by
  refine ⟨⟨?_, ?_⟩, ?_, ?_, ?_⟩
  · rintro ⟨named, h⟩
    rw [resolveNames] at h
    split at h
    case h_1 => cases h
    case h_2 head tail hsplit => exact ⟨head, tail, splitNames?_eq_some_iff.mp hsplit⟩
  · rintro ⟨head, tail, h⟩
    obtain ⟨named, hnamed, -⟩ := h.exists_resolveNames dialect
    exact ⟨named, hnamed⟩
  · intro head tail h
    refine ⟨fun other others hother => ?_, h.exists_resolveNames dialect⟩
    exact Prod.mk.inj (Option.some.inj (hother.splitNames?_eq.symm.trans h.splitNames?_eq))
  · intro hnone
    refine ⟨.unterminatedName, ?_, rfl, rfl⟩
    rw [resolveNames]
    split
    case h_1 => rfl
    case h_2 head tail hsplit =>
      exact absurd ⟨head, tail, splitNames?_eq_some_iff.mp hsplit⟩ hnone
  · intro hne hplain named h
    exact resolveNames_of_resolveNames hne hplain h

/-- The characters of the marks may stand next to the marks: a fragment ends with the
first character of a start, a name with the first one of an end. -/
example :
    resolveNames .postgres "\x05\x05\x06a\x06\x06\x05\x05" =
      .ok ⟨"\x05$1\x05", .ofNames ["a\x06"], 1⟩ := by
  rfl

end SqlText
