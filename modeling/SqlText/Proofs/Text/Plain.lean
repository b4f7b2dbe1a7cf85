import SqlText.Numeric.Shortest
import SqlText.Placeholder.Markup

/-!
# Plain text

A text is plain if it has none of the characters that placeholder marks are made
of.  Marks can be told from everything else exactly because all else is plain, so
plainness is followed here from single characters through the texts of numbers to
texts that are put together from others.
-/

namespace SqlText.Text

/-- A text has no reserved character. -/
def Plain (text : String) : Prop :=
  hasReserved text = false

instance (text : String) : Decidable (Plain text) :=
  inferInstanceAs (Decidable (hasReserved text = false))

theorem plain_iff {text : String} : Plain text ↔ ∀ c ∈ text.toList, isReserved c = false :=
  hasReserved_eq_false_iff

/-! ## Texts put together from others -/

theorem plain_empty : Plain "" := by decide

@[simp] theorem plain_append {left right : String} :
    Plain (left ++ right) ↔ Plain left ∧ Plain right := by
  simp [Plain]

theorem Plain.append {left right : String} (hleft : Plain left) (hright : Plain right) :
    Plain (left ++ right) :=
  plain_append.mpr ⟨hleft, hright⟩

theorem plain_ofList {chars : List Char} :
    Plain (String.ofList chars) ↔ ∀ c ∈ chars, isReserved c = false := by
  simp [plain_iff]

@[simp] theorem plain_singleton {c : Char} :
    Plain (String.singleton c) ↔ isReserved c = false := by
  simp [plain_iff]

theorem plain_join {texts : List String} (h : ∀ text ∈ texts, Plain text) :
    Plain (String.join texts) := by
  rw [plain_iff, String.toList_join]
  intro c hc
  obtain ⟨text, htext, hmem⟩ := List.mem_flatMap.mp hc
  exact plain_iff.mp (h text htext) c hmem

theorem plain_intercalate {separator : String} {texts : List String}
    (hseparator : Plain separator) (h : ∀ text ∈ texts, Plain text) :
    Plain (separator.intercalate texts) := by
  induction texts with
  | nil => exact plain_empty
  | cons first rest ih =>
      cases rest with
      | nil => simpa using h first (List.mem_cons_self ..)
      | cons next more =>
          rw [String.intercalate_cons_cons]
          simp only [plain_append]
          exact ⟨⟨h first (List.mem_cons_self ..), hseparator⟩,
            ih fun text htext => h text (List.mem_cons_of_mem _ htext)⟩

/-! ## Numbers -/

theorem isReserved_of_isDigit {c : Char} (h : c.isDigit = true) : isReserved c = false := by
  have hlow : '0' ≤ c := by
    simp only [Char.isDigit, ge_iff_le, Bool.and_eq_true, decide_eq_true_eq] at h
    exact h.1
  have hnot : ¬ c ≤ '\x06' := fun hle => absurd (Char.le_trans hlow hle) (by decide)
  simp [isReserved, hnot]

theorem isReserved_of_mem_toDigits {c : Char} {number : Nat} (h : c ∈ Nat.toDigits 10 number) :
    isReserved c = false :=
  isReserved_of_isDigit (Nat.isDigit_of_mem_toDigits (by decide) (by decide) h)

@[simp] theorem plain_repr (number : Nat) : Plain number.repr := by
  rw [Nat.repr_eq_ofList_toDigits, plain_ofList]
  exact fun c hc => isReserved_of_mem_toDigits hc

theorem plain_toString_int (number : Int) : Plain (toString number) := by
  cases number with
  | ofNat number => exact plain_repr number
  | negSucc number =>
      show Plain ("-" ++ (number + 1).repr)
      exact plain_append.mpr ⟨by decide, plain_repr _⟩

end SqlText.Text

namespace SqlText.Numeric

open Text

theorem plain_zeros (count : Nat) : Plain (zeros count) := by
  rw [zeros, plain_ofList]
  intro c hc
  rw [List.eq_of_mem_replicate hc]
  decide

theorem Decimal.plain_text (x : Decimal) : Plain x.text := by
  have hdigits : ∀ c ∈ Nat.toDigits 10 x.coefficient, isReserved c = false :=
    fun c hc => isReserved_of_mem_toDigits hc
  simp only [Decimal.text]
  split
  · simp only [plain_append, plain_ofList]
    exact ⟨hdigits, plain_zeros _⟩
  · split
    · simp only [plain_append, plain_ofList]
      exact ⟨⟨fun c hc => hdigits c (List.mem_of_mem_take hc), by decide⟩,
        fun c hc => hdigits c (List.mem_of_mem_drop hc)⟩
    · simp only [plain_append, plain_ofList]
      exact ⟨⟨by decide, plain_zeros _⟩, hdigits⟩

theorem Binary.plain_text {format : BinaryFormat} (x : Binary format) : Plain x.text := by
  have hsign : Plain (if x.isNegative then "-" else "") := by split <;> decide
  cases hmagnitude : x.magnitude with
  | nan =>
      simp only [Binary.text, hmagnitude]
      decide
  | infinite =>
      simp only [Binary.text, hmagnitude, plain_append]
      exact ⟨hsign, by decide⟩
  | zero =>
      simp only [Binary.text, hmagnitude, plain_append]
      exact ⟨hsign, by decide⟩
  | finite value =>
      simp only [Binary.text, hmagnitude, plain_append]
      exact ⟨hsign, value.shortest.plain_text⟩

end SqlText.Numeric
