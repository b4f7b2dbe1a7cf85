import SqlText.Condition
import SqlText.Proofs.Text.Plain

/-!
# Words with stops behind them

Where a text is read from the left, names, numbers and operators end at a stop: a space,
a comma, a closing parenthesis, or the end of the text.  None of them holds a stop in
its inside that could be mistaken for its end, so each is determined by any text that
begins with it (`eq_of_append_word`, `Condition.eq_of_append_text`).
-/

namespace SqlText

namespace Text

/-! ## Words -/

/-- The characters of names and of numbers. -/
def isOfWord (c : Char) : Bool :=
  c.isLower || c.isDigit || c == '_' || c == '-'

/-- The characters behind names, numbers and operators. -/
def isStop (c : Char) : Bool :=
  c == ' ' || c == ',' || c == ')'

/-- A text is at its end or goes on with a stop. -/
def Stops (rest : List Char) : Prop :=
  ∀ c ∈ rest.head?, isStop c = true

theorem stops_nil : Stops [] :=
  fun _ h => nomatch h

theorem stops_cons {c : Char} {rest : List Char} (h : isStop c = true) : Stops (c :: rest) := by
  intro other hother
  rwa [Option.mem_some_iff.mp hother] at h

/-- Characters of a class are determined by a text that begins with them, if the class
ends there. -/
theorem eq_of_append_class {isOf : Char → Bool} {word other rest others : List Char}
    (hword : ∀ c ∈ word, isOf c = true) (hother : ∀ c ∈ other, isOf c = true)
    (hrest : ∀ c ∈ rest.head?, isOf c = false) (hothers : ∀ c ∈ others.head?, isOf c = false)
    (h : word ++ rest = other ++ others) : word = other ∧ rest = others := by
  have takeWhile_eq_nil : ∀ {text : List Char}, (∀ c ∈ text.head?, isOf c = false) →
      text.takeWhile isOf = [] := by
    intro text htext
    cases text with
    | nil => rfl
    | cons c more => rw [List.takeWhile_cons, htext c rfl]; rfl
  have hwords := congrArg (List.takeWhile isOf) h
  rw [List.takeWhile_append_of_pos hword, List.takeWhile_append_of_pos hother,
    takeWhile_eq_nil hrest, takeWhile_eq_nil hothers, List.append_nil, List.append_nil] at hwords
  subst hwords
  exact ⟨rfl, List.append_cancel_left h⟩

theorem Stops.isOfWord_eq_false {rest : List Char} (h : Stops rest) :
    ∀ c ∈ rest.head?, isOfWord c = false := by
  intro c hc
  have hstop := h c hc
  simp only [isStop, Bool.or_eq_true, beq_iff_eq] at hstop
  rcases hstop with (rfl | rfl) | rfl <;> rfl

theorem eq_of_append_word {word other rest others : List Char}
    (hword : ∀ c ∈ word, isOfWord c = true) (hother : ∀ c ∈ other, isOfWord c = true)
    (hrest : Stops rest) (hothers : Stops others) (h : word ++ rest = other ++ others) :
    word = other ∧ rest = others :=
  eq_of_append_class hword hother hrest.isOfWord_eq_false hothers.isOfWord_eq_false h

/-! ## Names -/

/-- Whether a text is a lower-case letter and then lower-case letters, digits and
underscores. -/
def isLowerName (name : String) : Bool :=
  name.toList.head?.any Char.isLower &&
    name.toList.all fun c => c.isLower || c.isDigit || c == '_'

theorem exists_of_isLowerName {name : String} (h : isLowerName name = true) :
    ∃ first rest, name.toList = first :: rest ∧ first.isLower = true := by
  unfold isLowerName at h
  cases hname : name.toList with
  | nil => simp [hname] at h
  | cons first rest =>
      rw [hname] at h
      exact ⟨first, rest, rfl, (Bool.and_eq_true_iff.mp h).1⟩

theorem isOfWord_of_isLowerName {name : String} (h : isLowerName name = true) :
    ∀ c ∈ name.toList, isOfWord c = true := by
  intro c hc
  have hname := List.all_eq_true.mp (Bool.and_eq_true_iff.mp h).2 c hc
  unfold isOfWord
  rw [hname, Bool.true_or]

/-! ## Numbers -/

theorem toList_toString_ofNat (number : Nat) :
    (toString (number : Int)).toList = Nat.toDigits 10 number :=
  Nat.toList_repr

theorem toList_toString_negSucc (number : Nat) :
    (toString (Int.negSucc number)).toList = '-' :: Nat.toDigits 10 (number + 1) := by
  show ("-" ++ (number + 1).repr).toList = _
  rw [String.toList_append, Nat.toList_repr]
  exact List.singleton_append

theorem isDigit_of_mem_toDigits {c : Char} {number : Nat} (h : c ∈ Nat.toDigits 10 number) :
    c.isDigit = true :=
  Nat.isDigit_of_mem_toDigits (by decide) (by decide) h

theorem toDigits_inj {number other : Nat} (h : Nat.toDigits 10 number = Nat.toDigits 10 other) :
    number = other := by
  calc
    number = Nat.ofDigitChars 10 (Nat.toDigits 10 number) 0 :=
      Nat.ofDigitChars_ten_toDigits.symm
    _ = Nat.ofDigitChars 10 (Nat.toDigits 10 other) 0 := by rw [h]
    _ = other := Nat.ofDigitChars_ten_toDigits

/-- A number starts with a digit or a sign. -/
theorem exists_toString_int (number : Int) : ∃ first rest,
    (toString number).toList = first :: rest ∧ (first.isDigit = true ∨ first = '-') ∧
      ∀ c ∈ rest, c.isDigit = true := by
  cases number with
  | ofNat number =>
      obtain ⟨first, rest, hdigits⟩ : ∃ first rest, Nat.toDigits 10 number = first :: rest :=
        List.exists_cons_of_ne_nil Nat.toDigits_ne_nil
      refine ⟨first, rest, (toList_toString_ofNat number).trans hdigits, .inl ?_, fun c hc => ?_⟩
      · exact isDigit_of_mem_toDigits (hdigits ▸ List.mem_cons_self ..)
      · exact isDigit_of_mem_toDigits (hdigits ▸ List.mem_cons_of_mem _ hc)
  | negSucc number =>
      exact ⟨'-', _, toList_toString_negSucc number, .inr rfl,
        fun c hc => isDigit_of_mem_toDigits hc⟩

theorem isOfWord_toString_int (number : Int) :
    ∀ c ∈ (toString number).toList, isOfWord c = true := by
  obtain ⟨first, rest, hnumber, hfirst, hrest⟩ := exists_toString_int number
  rw [hnumber]
  intro c hc
  unfold isOfWord
  rcases List.mem_cons.mp hc with rfl | hc
  · rcases hfirst with hfirst | rfl
    · simp [hfirst]
    · rfl
  · simp [hrest c hc]

theorem toString_int_inj {number other : Int}
    (h : (toString number).toList = (toString other).toList) : number = other := by
  have ne_sign : ∀ {number rest}, Nat.toDigits 10 number ≠ '-' :: rest := by
    intro number rest hdigits
    have hsign : ('-').isDigit = true := isDigit_of_mem_toDigits (hdigits ▸ List.mem_cons_self ..)
    exact absurd hsign (by decide)
  cases number with
  | ofNat number =>
      rw [Int.ofNat_eq_natCast, toList_toString_ofNat] at h
      cases other with
      | ofNat other =>
          rw [Int.ofNat_eq_natCast, toList_toString_ofNat] at h
          rw [toDigits_inj h]
      | negSucc other =>
          rw [toList_toString_negSucc] at h
          exact absurd h ne_sign
  | negSucc number =>
      rw [toList_toString_negSucc] at h
      cases other with
      | ofNat other =>
          rw [Int.ofNat_eq_natCast, toList_toString_ofNat] at h
          exact absurd h.symm ne_sign
      | negSucc other =>
          rw [toList_toString_negSucc] at h
          rw [Nat.succ.inj (toDigits_inj (List.cons.inj h).2)]

end Text

/-! ## Operators -/

namespace Condition

/-- All operators. -/
def all : List Condition :=
  [equal, notEqual, less, lessOrEqual, greater, greaterOrEqual, like, notLike, inList, notInList,
    between, notBetween, isNull, isNotNull, rowExists, noRowExists, and, or]

theorem mem_all (condition : Condition) : condition ∈ all := by
  cases condition <;> decide

theorem text_injective_of_mem :
    ∀ condition ∈ all, ∀ other ∈ all, condition.text = other.text → condition = other := by
  decide

/-- Whether the text of an operator is that of another one, a stop, and more. -/
def goesOn (condition other : Condition) (stop : Char) : Bool :=
  (condition.text.toList ++ [stop]).isPrefixOf other.text.toList

theorem goesOn_of_mem : ∀ condition ∈ all, ∀ other ∈ all,
    goesOn condition other ' ' = false ∧ goesOn condition other ',' = false ∧
      goesOn condition other ')' = false := by
  decide

/-- No operator starts with another one and a stop. -/
theorem goesOn_eq_false {stop : Char} (h : Text.isStop stop = true)
    (condition other : Condition) : goesOn condition other stop = false := by
  obtain ⟨hspace, hcomma, hparen⟩ := goesOn_of_mem _ (mem_all condition) _ (mem_all other)
  simp only [Text.isStop, Bool.or_eq_true, beq_iff_eq] at h
  rcases h with (rfl | rfl) | rfl
  · exact hspace
  · exact hcomma
  · exact hparen

/-- Where an operator starts with another one, the other one is no operator with a stop
behind it unless they are the same. -/
theorem eq_of_text_eq_append {condition other : Condition} {more others : List Char}
    (hstops : Text.Stops (more ++ others)) (h : other.text.toList = condition.text.toList ++ more) :
    condition = other ∧ more = [] := by
  cases more with
  | nil =>
      rw [List.append_nil, String.toList_inj] at h
      exact ⟨text_injective_of_mem _ (mem_all _) _ (mem_all _) h.symm, rfl⟩
  | cons stop more =>
      have hprefix : condition.text.toList ++ [stop] <+: other.text.toList :=
        ⟨more, by rw [h, List.append_assoc, List.singleton_append]⟩
      have hgoesOn := goesOn_eq_false (hstops stop rfl) condition other
      rw [goesOn, List.isPrefixOf_iff_prefix.mpr hprefix] at hgoesOn
      cases hgoesOn

/-- An operator is determined by a text that begins with it and a stop. -/
theorem eq_of_append_text {condition other : Condition} {rest others : List Char}
    (hrest : Text.Stops rest) (hothers : Text.Stops others)
    (h : condition.text.toList ++ rest = other.text.toList ++ others) :
    condition = other ∧ rest = others := by
  rcases List.append_eq_append_iff.mp h with ⟨more, htext, rfl⟩ | ⟨more, htext, rfl⟩
  · obtain ⟨heq, rfl⟩ := eq_of_text_eq_append hrest htext
    exact ⟨heq, rfl⟩
  · obtain ⟨heq, rfl⟩ := eq_of_text_eq_append hothers htext
    exact ⟨heq.symm, rfl⟩

end Condition

end SqlText
