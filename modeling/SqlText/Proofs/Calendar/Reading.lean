import SqlText.Calendar.Format

/-!
# The words of a pattern

A pattern is a sequence of words: characters that stand for themselves, and directives.
Reading finds just these words (`readItems?_eq_some_iff`), since the first few characters
settle which word comes first, whatever follows it.
-/

namespace SqlText.Calendar

/-! ## The words of a pattern -/

/-- The padding that is chosen by a character behind the percent sign. -/
def paddingMark? : Char → Option Padding
  | '-' => some .none
  | '_' => some .spaces
  | '0' => some .zeros
  | _ => none

/-- The number of digits of a fraction that is chosen by a character. -/
def digitCount? : Char → Option Nat
  | '3' => some 3
  | '6' => some 6
  | '9' => some 9
  | _ => none

/-- The directives for a time zone. -/
def zoneDirectives : List String :=
  ["%Z", "%z", "%+", "%:z", "%::z", "%:::z", "%#z"]

/-- A word of a pattern, and the items that it stands for. -/
inductive Word : List Char → List Item → Prop
  | literal {c : Char} : c ≠ '%' → Word [c] [.literal c]
  | directive {c : Char} {items : List Item} : directive? c = some items → Word ['%', c] items
  | padded {mark c : Char} {padding : Padding} {items : List Item} :
      paddingMark? mark = some padding → paddedDirective? padding c = some items →
        Word ['%', mark, c] items
  | fraction : Word ['%', '.', 'f'] [.text .fraction]
  | pointDigits {c : Char} {digits : Nat} : digitCount? c = some digits →
      Word ['%', '.', c, 'f'] [.text (.fractionDigits true digits)]
  | digits {c : Char} {digits : Nat} : digitCount? c = some digits →
      Word ['%', c, 'f'] [.text (.fractionDigits false digits)]
  | zone {text : String} : text ∈ zoneDirectives → Word text.toList [.zone]

/-- A pattern as a sequence of words. -/
inductive Spells : List Char → List Item → Prop
  | nil : Spells [] []
  | cons {word rest : List Char} {items others : List Item} :
      Word word items → Spells rest others → Spells (word ++ rest) (items ++ others)

theorem Spells.append {front rest : List Char} {items others : List Item}
    (hfront : Spells front items) (hrest : Spells rest others) :
    Spells (front ++ rest) (items ++ others) := by
  induction hfront with
  | nil => exact hrest
  | cons hword _ ih =>
      rw [List.append_assoc, List.append_assoc]
      exact .cons hword ih

/-! ## Reading finds the words -/

theorem followedBy_eq_some_iff {front rest : Option (List Item)} {items : List Item} :
    followedBy front rest = some items ↔
      ∃ first, front = some first ∧ ∃ second, rest = some second ∧ first ++ second = items := by
  simp only [followedBy, Option.bind_eq_some_iff, Option.map_eq_some_iff]

/-- A character that begins a longer directive is no directive by itself. -/
theorem readItems?_directive {c : Char} {items : List Item} (h : directive? c = some items)
    (rest : List Char) :
    readItems? ('%' :: c :: rest) = followedBy (some items) (readItems? rest) := by
  rw [readItems?.eq_16, h]
  all_goals
    intros
    subst c
    exact nomatch h

theorem readItems?_literal {c : Char} (h : c ≠ '%') (rest : List Char) :
    readItems? (c :: rest) = followedBy (some [.literal c]) (readItems? rest) := by
  rw [readItems?.eq_18]
  all_goals
    intros
    exact h ‹_›

/-- What the first word stands for does not depend on what follows it. -/
theorem Word.readItems?_append {word : List Char} {items : List Item} (h : Word word items)
    (rest : List Char) :
    readItems? (word ++ rest) = followedBy (some items) (readItems? rest) := by
  cases h with
  | literal hc => exact readItems?_literal hc rest
  | directive h => exact readItems?_directive h rest
  | padded hmark h =>
      unfold paddingMark? at hmark
      split at hmark
      all_goals first
        | contradiction
        | obtain rfl := Option.some.inj hmark
          rw [← h]
          rfl
  | fraction => rfl
  | pointDigits h =>
      unfold digitCount? at h
      split at h
      all_goals first
        | contradiction
        | obtain rfl := Option.some.inj h
          rfl
  | digits h =>
      unfold digitCount? at h
      split at h
      all_goals first
        | contradiction
        | obtain rfl := Option.some.inj h
          rfl
  | zone h =>
      simp only [zoneDirectives, List.mem_cons, List.not_mem_nil, or_false] at h
      rcases h with rfl | rfl | rfl | rfl | rfl | rfl | rfl
      all_goals rfl

theorem readItems?_of_spells {chars : List Char} {items : List Item} (h : Spells chars items) :
    readItems? chars = some items := by
  induction h with
  | nil => rfl
  | cons hword _ ih => rw [hword.readItems?_append, ih]; rfl

private theorem ne_of_no_rest {c percent : Char} {rest : List Char}
    (hcons : ∀ other more, c = percent → rest = other :: more → False)
    (hnil : c = percent → rest = [] → False) : c ≠ percent := by
  intro hc
  cases rest with
  | nil => exact hnil hc rfl
  | cons other more => exact hcons other more hc rfl

theorem spells_of_readItems? {chars : List Char} {items : List Item}
    (h : readItems? chars = some items) : Spells chars items := by
  fun_induction readItems? chars generalizing items
  case case1 =>
    obtain rfl := Option.some.inj h
    exact .nil
  case case17 => cases h
  all_goals
    rename_i ih
    obtain ⟨first, hfirst, second, hsecond, rfl⟩ := followedBy_eq_some_iff.mp h
    replace ih := ih hsecond
  case case2 | case3 | case4 => exact .cons (.padded rfl hfirst) ih
  case case16 => exact .cons (.directive hfirst) ih
  all_goals obtain rfl := Option.some.inj hfirst
  case case5 => exact .cons .fraction ih
  case case6 | case7 | case8 => exact .cons (.pointDigits rfl) ih
  case case9 | case10 | case11 => exact .cons (.digits rfl) ih
  case case12 => exact .cons (.zone (by decide : "%:z" ∈ zoneDirectives)) ih
  case case13 => exact .cons (.zone (by decide : "%::z" ∈ zoneDirectives)) ih
  case case14 => exact .cons (.zone (by decide : "%:::z" ∈ zoneDirectives)) ih
  case case15 => exact .cons (.zone (by decide : "%#z" ∈ zoneDirectives)) ih
  case case18 hcons hnil => exact .cons (.literal (ne_of_no_rest hcons hnil)) ih

/-- Reading gives the items of the words that a text is made of, and fails if it is not made
of words. -/
theorem readItems?_eq_some_iff {chars : List Char} {items : List Item} :
    readItems? chars = some items ↔ Spells chars items :=
  ⟨spells_of_readItems?, readItems?_of_spells⟩

/-- A text is a pattern if it is made of words. -/
theorem ofString?_eq_some_iff {text : String} {pattern : Pattern} :
    Pattern.ofString? text = some pattern ↔ Spells text.toList pattern.items := by
  rw [Pattern.ofString?, Option.map_eq_some_iff, ← readItems?_eq_some_iff]
  constructor
  · rintro ⟨items, hitems, rfl⟩
    exact hitems
  · intro h
    exact ⟨pattern.items, h, rfl⟩

end SqlText.Calendar
