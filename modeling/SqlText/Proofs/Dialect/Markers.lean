import SqlText.Placeholder.Binding
import SqlText.Proofs.Text.Plain

/-!
# Markers that get in each other's way

A placeholder is a marker and what follows it: a number, if the dialect has numbers,
or the name of a parameter.  The two kinds of placeholders can be told apart unless
the marker of names is the start of a numbered placeholder.  Where it ends within
the marker of numbers, the rest of that marker and the number make a name; where it
ends within the number, the remaining digits do, and the digits before them are a
number too.
-/

namespace SqlText

/-! ## Digits -/

/-- The leading digits of a number are a number. -/
theorem exists_toDigits_of_append {leading rest : List Char} {number : Nat}
    (hnumber : 1 ≤ number) (hleading : leading ≠ [])
    (h : leading ++ rest = Nat.toDigits 10 number) :
    ∃ start, 1 ≤ start ∧ leading = Nat.toDigits 10 start := by
  induction number using Nat.strongRecOn generalizing rest with
  | ind number ih =>
      rcases List.eq_nil_or_concat rest with rfl | ⟨others, digit, rfl⟩
      · exact ⟨number, hnumber, by rwa [List.append_nil] at h⟩
      · rw [List.concat_eq_append, ← List.append_assoc] at h
        have hpos := List.length_pos_iff.mpr hleading
        by_cases hlt : number < 10
        · rw [Nat.toDigits_of_lt_base hlt] at h
          have hlength := congrArg List.length h
          simp only [List.length_append, List.length_singleton] at hlength
          omega
        · rw [Nat.toDigits_of_base_le (by omega) (by omega)] at h
          exact ih (number / 10) (by omega) (by omega) (List.append_inj_left' h rfl)

theorem toDigits_mul_ten {number : Nat} (h : 1 ≤ number) :
    Nat.toDigits 10 (10 * number) = Nat.toDigits 10 number ++ ['0'] := by
  rw [Nat.toDigits_of_base_le (by omega) (by omega)]
  simp

namespace Dialect

/-- Numbered placeholders start with the marker of names, so that some name gives
the same text. -/
def Overlaps (dialect : Dialect) : Prop :=
  ∃ marker, dialect.text? .namedParameter = some marker ∧ hasNames marker = false ∧
    if dialect.numbersParameters then
      (∃ rest, Text.Plain rest ∧ dialect.text .numberedParameter = marker ++ rest) ∨
        ∃ position, 1 ≤ position ∧ marker = dialect.placeholder position
    else ∃ rest, rest ≠ "" ∧ Text.Plain rest ∧ dialect.text .numberedParameter = marker ++ rest

variable {dialect : Dialect}

theorem toList_placeholder (hnumbers : dialect.numbersParameters = true) (position : Nat) :
    (dialect.placeholder position).toList =
      (dialect.text .numberedParameter).toList ++ Nat.toDigits 10 position := by
  rw [placeholder, if_pos hnumbers, String.toList_append]
  congr 1
  exact congrArg String.toList Nat.repr_eq_ofList_toDigits |>.trans String.toList_ofList

theorem placeholder_mul_ten (hnumbers : dialect.numbersParameters = true) {position : Nat}
    (h : 1 ≤ position) :
    dialect.placeholder (10 * position) = dialect.placeholder position ++ "0" := by
  rw [← String.toList_inj, String.toList_append, toList_placeholder hnumbers,
    toList_placeholder hnumbers, toDigits_mul_ten h, List.append_assoc]
  rfl

/-- Markers overlap if some name gives a named placeholder the text of a numbered
one. -/
theorem overlaps_iff :
    dialect.Overlaps ↔
      ∃ marker name position, dialect.text? .namedParameter = some marker ∧
        hasNames marker = false ∧ 1 ≤ position ∧ name ≠ "" ∧ Text.Plain name ∧
        marker ++ name = dialect.placeholder position := by
  unfold Overlaps
  cases hnumbers : dialect.numbersParameters with
  | true =>
      simp only [if_true]
      constructor
      · rintro ⟨marker, hmarker, hnames, ⟨rest, hrest, hnumbered⟩ | ⟨position, hposition, hstart⟩⟩
        · refine ⟨marker, rest ++ "1", 1, hmarker, hnames, Nat.le_refl 1, ?_, ?_, ?_⟩
          · simp
          · exact Text.plain_append.mpr ⟨hrest, by decide⟩
          · rw [placeholder, if_pos hnumbers, hnumbered, String.append_assoc]
            rfl
        · refine ⟨marker, "0", 10 * position, hmarker, hnames, by omega, by decide, by decide, ?_⟩
          rw [hstart, placeholder_mul_ten hnumbers hposition]
      · rintro ⟨marker, name, position, hmarker, hnames, hposition, hname, hplain, htext⟩
        refine ⟨marker, hmarker, hnames, ?_⟩
        have hlists := congrArg String.toList htext
        rw [String.toList_append, toList_placeholder hnumbers] at hlists
        -- the marker ends within the marker of numbers, or within the number
        rcases List.append_eq_append_iff.mp hlists with ⟨rest, hwithin, hrest⟩ |
          ⟨digits, hbeyond, hdigits⟩
        · refine Or.inl ⟨String.ofList rest, ?_, ?_⟩
          · refine Text.plain_ofList.mpr fun c hc => Text.plain_iff.mp hplain c ?_
            rw [hrest]
            exact List.mem_append_left _ hc
          · rw [← String.toList_inj, hwithin, String.toList_append, String.toList_ofList]
        · by_cases hnil : digits = []
          · refine Or.inl ⟨"", Text.plain_empty, ?_⟩
            rw [hnil, List.append_nil, String.toList_inj] at hbeyond
            rw [hbeyond, String.append_empty]
          · obtain ⟨start, hstart, hleading⟩ :=
              exists_toDigits_of_append hposition hnil hdigits.symm
            refine Or.inr ⟨start, hstart, ?_⟩
            rw [← String.toList_inj, hbeyond, hleading, toList_placeholder hnumbers]
  | false =>
      simp only [Bool.false_eq_true, if_false, placeholder, hnumbers]
      constructor
      · rintro ⟨marker, hmarker, hnames, rest, hne, hrest, hnumbered⟩
        exact ⟨marker, rest, 1, hmarker, hnames, Nat.le_refl 1, hne, hrest, hnumbered.symm⟩
      · rintro ⟨marker, name, position, hmarker, hnames, -, hname, hplain, htext⟩
        exact ⟨marker, hmarker, hnames, name, hname, hplain, htext.symm⟩

end Dialect

end SqlText
