import SqlText.Proofs.Calendar.Reading
import SqlText.Proofs.Text.Plain

/-!
# Dates are plain

The text of a date is made of digits, signs, separators and names, and so it is
plain.  The form that a pattern describes also holds the characters that stand for
themselves in the pattern; it is plain as soon as the pattern is.
-/

namespace SqlText.Calendar

open Text

/-! ## Columns -/

theorem plain_repeated {c : Char} (hc : isReserved c = false) (count : Nat) :
    Plain (repeated c count) := by
  rw [repeated, plain_ofList]
  intro other hother
  rw [List.eq_of_mem_replicate hother, hc]

theorem plain_padded {sign : String} (hsign : Plain sign) (width : Nat) (padding : Padding)
    (magnitude : Nat) : Plain (padded width padding sign magnitude) := by
  have hzeros : ∀ count, Plain (repeated '0' count) := plain_repeated (by decide)
  have hspaces : ∀ count, Plain (repeated ' ' count) := plain_repeated (by decide)
  cases padding <;> simp [padded, hsign, hzeros, hspaces]

theorem plain_column (width : Nat) (padding : Padding) (n : Int) :
    Plain (column width padding n) :=
  plain_padded (by split <;> decide) width padding n.natAbs

theorem plain_yearColumn (padding : Padding) (year : Int) : Plain (yearColumn padding year) := by
  unfold yearColumn
  split
  · exact plain_column 4 padding year
  · exact plain_padded (by split <;> decide) 5 padding year.natAbs

theorem plain_fractionDigits (digits nanoseconds : Nat) :
    Plain (fractionDigits digits nanoseconds) :=
  plain_column digits .zeros _

theorem plain_fractionText (nanoseconds : Nat) : Plain (fractionText nanoseconds) := by
  have hpoint : Plain "." := by decide
  unfold fractionText
  split
  · exact plain_empty
  · split
    · exact plain_append.mpr ⟨hpoint, plain_fractionDigits 3 nanoseconds⟩
    · split
      · exact plain_append.mpr ⟨hpoint, plain_fractionDigits 6 nanoseconds⟩
      · exact plain_append.mpr ⟨hpoint, plain_fractionDigits 9 nanoseconds⟩

/-! ## Names -/

theorem plain_getD {names : List String} (h : ∀ name ∈ names, Plain name) (index : Nat) :
    Plain (names.getD index "") := by
  rw [List.getD_eq_getElem?_getD]
  cases hname : names[index]? with
  | none => exact plain_empty
  | some name => exact h name (List.mem_of_getElem? hname)

theorem Date.plain_monthName (date : Date) : Plain date.monthName :=
  plain_getD (by decide) _

theorem Date.plain_weekdayName (date : Date) : Plain date.weekdayName :=
  plain_getD (by decide) _

theorem plain_abbreviated {name : String} (h : Plain name) : Plain (abbreviated name) := by
  rw [abbreviated, plain_ofList]
  exact fun c hc => plain_iff.mp h c (List.mem_of_mem_take hc)

/-! ## The plain form of a date -/

namespace DateTime

theorem plain_text (moment : DateTime) : Plain moment.text := by
  have hdash : Plain "-" := by decide
  have hspace : Plain " " := by decide
  have hcolon : Plain ":" := by decide
  simp [text, plain_yearColumn, plain_column, plain_fractionText, hdash, hspace, hcolon]

theorem plain_numberText (moment : DateTime) (field : NumberField) (padding : Padding) :
    Plain (moment.numberText field padding) := by
  cases field
  case year => exact plain_yearColumn padding _
  case weekYear => exact plain_yearColumn padding _
  all_goals exact plain_column _ padding _

theorem plain_fieldText (moment : DateTime) (field : TextField) :
    Plain (moment.fieldText field) := by
  cases field with
  | shortMonth => exact plain_abbreviated moment.date.plain_monthName
  | longMonth => exact moment.date.plain_monthName
  | shortWeekday => exact plain_abbreviated moment.date.plain_weekdayName
  | longWeekday => exact moment.date.plain_weekdayName
  | upperHalfDay =>
      simp only [fieldText]
      split <;> decide
  | lowerHalfDay =>
      simp only [fieldText]
      split <;> decide
  | fraction => exact plain_fractionText _
  | fractionDigits point digits =>
      refine plain_append.mpr ⟨?_, plain_fractionDigits digits _⟩
      split <;> decide

end DateTime

/-! ## The form that a pattern describes -/

/-- An item that does not stand for a reserved character. -/
def Item.Plain : Item → Prop
  | .literal c => isReserved c = false
  | _ => True

instance : (item : Item) → Decidable item.Plain
  | .literal c => inferInstanceAs (Decidable (isReserved c = false))
  | .number .. | .text _ | .zone => .isTrue trivial

theorem plain_of_paddedDirective? {padding : Padding} {c : Char} {items : List Item}
    (h : paddedDirective? padding c = some items) : ∀ item ∈ items, item.Plain := by
  obtain ⟨found, -, rfl⟩ := Option.map_eq_some_iff.mp h
  simp [Item.Plain]

theorem plain_of_wordDirective? {c : Char} {items : List Item}
    (h : wordDirective? c = some items) : ∀ item ∈ items, item.Plain := by
  unfold wordDirective? at h
  split at h
  all_goals first
    | contradiction
    | rw [← Option.some.inj h]
      decide

theorem plain_of_directive? {c : Char} {items : List Item} (h : directive? c = some items) :
    ∀ item ∈ items, item.Plain := by
  unfold directive? at h
  split at h
  · rw [← Option.some.inj h]
    simp [Item.Plain]
  · exact plain_of_wordDirective? h

theorem Word.plain {word : List Char} {items : List Item} (h : Word word items)
    (hword : ∀ c ∈ word, isReserved c = false) : ∀ item ∈ items, item.Plain := by
  cases h with
  | literal => simpa [Item.Plain] using hword
  | directive h => exact plain_of_directive? h
  | padded _ h => exact plain_of_paddedDirective? h
  | _ => simp [Item.Plain]

/-- The items of a plain pattern are plain. -/
theorem plain_of_readItems? {chars : List Char} {items : List Item}
    (hchars : ∀ c ∈ chars, isReserved c = false) (h : readItems? chars = some items) :
    ∀ item ∈ items, item.Plain := by
  have hspells := readItems?_eq_some_iff.mp h
  clear h
  induction hspells with
  | nil => exact fun _ hitem => nomatch hitem
  | cons hword _ ih =>
      obtain ⟨hfront, hrest⟩ := List.forall_mem_append.mp hchars
      exact List.forall_mem_append.mpr ⟨hword.plain hfront, ih hrest⟩

theorem DateTime.plain_of_itemText? {moment : DateTime} {item : Item} {text : String}
    (hitem : item.Plain) (h : moment.itemText? item = some text) : Plain text := by
  cases item with
  | literal c =>
      rw [← Option.some.inj h, plain_singleton]
      exact hitem
  | number field padding =>
      rw [← Option.some.inj h]
      exact moment.plain_numberText field padding
  | text field =>
      rw [← Option.some.inj h]
      exact moment.plain_fieldText field
  | zone => exact absurd h (by simp [itemText?])

private theorem exists_of_mem_mapM {α β : Type} {read : α → Option β} {inputs : List α}
    {outputs : List β} (h : inputs.mapM read = some outputs) {output : β}
    (houtput : output ∈ outputs) : ∃ input ∈ inputs, read input = some output := by
  induction inputs generalizing outputs with
  | nil => simp_all
  | cons input rest ih =>
      rw [List.mapM_cons] at h
      obtain ⟨first, hfirst, h⟩ := Option.bind_eq_some_iff.mp h
      obtain ⟨others, hothers, h⟩ := Option.bind_eq_some_iff.mp h
      rw [← Option.some.inj h] at houtput
      rcases List.mem_cons.mp houtput with rfl | houtput
      · exact ⟨input, List.mem_cons_self .., hfirst⟩
      · obtain ⟨source, hsource, hread⟩ := ih hothers houtput
        exact ⟨source, List.mem_cons_of_mem _ hsource, hread⟩

/-- A date in the form that a plain pattern describes is plain. -/
theorem DateTime.plain_of_format? {moment : DateTime} {pattern text : String} {read : Pattern}
    (hpattern : Plain pattern) (hread : Pattern.ofString? pattern = some read)
    (h : moment.format? read = some text) : Plain text := by
  obtain ⟨items, hitems, rfl⟩ := Option.map_eq_some_iff.mp hread
  obtain ⟨texts, htexts, rfl⟩ := Option.map_eq_some_iff.mp h
  refine plain_join fun text htext => ?_
  obtain ⟨item, hitem, hitemText⟩ := exists_of_mem_mapM htexts htext
  exact plain_of_itemText? (plain_of_readItems? (plain_iff.mp hpattern) hitems item hitem) hitemText

end SqlText.Calendar
