import SqlText.Proofs.Placeholder.Marks

/-!
# Marks in texts that are put together

The mark of an unnamed place is counted wherever it stands, also within a text that was
never meant to hold one.  Two texts that are put together have the marks of both.  They
could have one more, which begins in the first text and ends in the second, but not if the
second begins with a character that is no part of marks (`countSlots_append`).  A plain text
has no marks and keeps the texts around it apart.
-/

namespace SqlText

open Text

/-! ## Marks at a seam -/

/-- A mark that starts before a text does not extend into it if the text begins with a
character that marks do not go on with. -/
theorem slotMark_prefix_of_append_of_ne_nil {chars rest : List Char} (hne : chars ≠ [])
    (hrest : ∀ c ∈ rest.head?, c ∉ slotMark.toList.tail)
    (h : slotMark.toList <+: chars ++ rest) : slotMark.toList <+: chars := by
  rcases List.prefix_or_prefix_of_prefix h (List.prefix_append chars rest) with hle | ⟨more, hmore⟩
  · exact hle
  · cases more with
    | nil => exact ⟨[], by rw [← hmore, List.append_nil, List.append_nil]⟩
    | cons c more =>
        -- the mark would go on with the first character of the rest
        have hmem : c ∈ slotMark.toList.tail := by
          rw [← hmore, List.tail_append_of_ne_nil hne]
          exact List.mem_append_right _ (List.mem_cons_self ..)
        rw [← hmore, List.prefix_append_right_inj] at h
        obtain ⟨tail, rfl⟩ := h
        exact absurd hmem (hrest c rfl)

/-- A mark does not extend into a text that begins with another character. -/
theorem slotMark_prefix_of_append {chars rest : List Char}
    (hrest : ∀ c ∈ rest.head?, isReserved c = false) (h : slotMark.toList <+: chars ++ rest) :
    slotMark.toList <+: chars := by
  cases chars with
  | nil =>
      obtain ⟨tail, rfl⟩ := h
      exact absurd (hrest '\x01' rfl) (by decide)
  | cons first chars =>
      refine slotMark_prefix_of_append_of_ne_nil (List.cons_ne_nil _ _) (fun c hc hmem => ?_) h
      have hmark : slotMark.toList.tail.all isReserved = true := by decide
      have hreserved : isReserved c = true := List.all_eq_true.mp hmark c hmem
      rw [hrest c hc] at hreserved
      cases hreserved

theorem length_splitSlots_append (chars : List Char) {rest : List Char}
    (h : ∀ c ∈ rest.head?, isReserved c = false) :
    (splitSlots (chars ++ rest)).2.length =
      (splitSlots chars).2.length + (splitSlots rest).2.length := by
  induction chars using splitSlots.induct with
  | case1 => simp [splitSlots]
  | case2 chars _ _ _ ih =>
      show (splitSlots (slotMark.toList ++ (chars ++ rest))).2.length =
        (splitSlots (slotMark.toList ++ chars)).2.length + (splitSlots rest).2.length
      rw [splitSlots_mark, splitSlots_mark, List.length_cons, List.length_cons]
      omega
  | case3 c chars hstart _ _ _ ih =>
      have hchars : ¬ slotMark.toList <+: c :: chars := by
        rintro ⟨tail, htail⟩
        obtain ⟨rfl, rfl⟩ := List.cons.inj htail
        exact hstart tail rfl rfl
      have happend : ¬ slotMark.toList <+: c :: (chars ++ rest) := fun hmark =>
        hchars (slotMark_prefix_of_append h hmark)
      rw [List.cons_append, splitSlots_cons_of_not_start happend,
        splitSlots_cons_of_not_start hchars]
      exact ih

/-- Whether a text holds a mark is seen from their number. -/
theorem countSlots_eq_zero_iff {text : String} :
    countSlots text = 0 ↔ ¬ slotMark.toList <:+: text.toList := by
  unfold countSlots
  induction text.toList using splitSlots.induct with
  | case1 => decide
  | case2 chars _ _ _ ih =>
      have hmark : slotMark.toList <:+: slotMark.toList ++ chars :=
        (List.prefix_append _ _).isInfix
      exact iff_of_false (by simp [splitSlots]) fun hnone => hnone hmark
  | case3 c chars hstart _ _ _ ih =>
      have hchars : ¬ slotMark.toList <+: c :: chars := by
        rintro ⟨tail, htail⟩
        obtain ⟨rfl, rfl⟩ := List.cons.inj htail
        exact hstart tail rfl rfl
      rw [splitSlots_cons_of_not_start hchars, ih, List.infix_cons_iff, not_or]
      exact (and_iff_right hchars).symm

/-! ## Texts that are put together -/

section Texts

variable {front back separator : String}

/-- Two texts have the marks of both, unless one could stand at the seam. -/
theorem countSlots_append (h : ∀ c ∈ back.toList.head?, isReserved c = false) :
    countSlots (front ++ back) = countSlots front + countSlots back := by
  rw [countSlots, String.toList_append]
  exact length_splitSlots_append _ h

/-- Two texts have the marks of both if the first ends with a character that is no part of
marks. -/
theorem countSlots_append_of_last {c : Char} (hlast : front.toList.getLast? = some c)
    (hc : isReserved c = false) :
    countSlots (front ++ back) = countSlots front + countSlots back := by
  obtain ⟨chars, hchars⟩ := List.getLast?_eq_some_iff.mp hlast
  have hseam : ∀ more, (splitSlots (chars ++ c :: more)).2.length =
      (splitSlots chars).2.length + (splitSlots more).2.length := by
    intro more
    have hne : c ≠ '\x01' := by
      rintro rfl
      exact absurd hc (by decide)
    have hhead : ∀ other ∈ (c :: more).head?, isReserved other = false := by
      intro other hother
      rwa [← Option.mem_some_iff.mp hother]
    rw [length_splitSlots_append chars hhead, splitSlots_cons hne]
  rw [countSlots, countSlots, countSlots, String.toList_append, hchars, List.append_assoc,
    List.singleton_append, hseam, hseam []]
  rfl

theorem countSlots_of_plain (h : Plain back) : countSlots back = 0 := by
  have hsplit := splitSlots_append (ne_of_plain h (by decide)) []
  rw [List.append_nil] at hsplit
  rw [countSlots, hsplit]
  rfl

theorem countSlots_plain_append (h : Plain front) :
    countSlots (front ++ back) = countSlots back := by
  rw [countSlots, String.toList_append, splitSlots_append (ne_of_plain h (by decide))]
  rfl

theorem countSlots_append_plain (h : Plain back) :
    countSlots (front ++ back) = countSlots front := by
  have hhead : ∀ c ∈ back.toList.head?, isReserved c = false := fun c hc =>
    plain_iff.mp h c (List.mem_of_mem_head? hc)
  rw [countSlots_append hhead, countSlots_of_plain h, Nat.add_zero]

/-- A plain text between two others keeps them apart. -/
theorem countSlots_separated (hplain : Plain separator) (hne : separator ≠ "") :
    countSlots (front ++ separator ++ back) = countSlots front + countSlots back := by
  obtain ⟨first, rest, hfirst⟩ : ∃ first rest, separator.toList = first :: rest :=
    List.exists_cons_of_ne_nil (by simpa using hne)
  have hhead : ∀ c ∈ (separator ++ back).toList.head?, isReserved c = false := by
    intro c hc
    rw [String.toList_append, hfirst, List.cons_append, List.head?_cons,
      Option.mem_some_iff] at hc
    rw [← hc]
    exact plain_iff.mp hplain first (hfirst ▸ List.mem_cons_self ..)
  rw [String.append_assoc, countSlots_append hhead, countSlots_plain_append hplain]

/-- The number of marks in several texts. -/
@[simp] def marksIn : List String → Nat
  | [] => 0
  | text :: rest => countSlots text + marksIn rest

@[simp] theorem marksIn_append (texts others : List String) :
    marksIn (texts ++ others) = marksIn texts + marksIn others := by
  induction texts with
  | nil => simp
  | cons text rest ih =>
      rw [List.cons_append, marksIn, marksIn, ih]
      omega

theorem marksIn_eq_zero_iff {texts : List String} :
    marksIn texts = 0 ↔ ∀ text ∈ texts, ¬ slotMark.toList <:+: text.toList := by
  induction texts with
  | nil => simp
  | cons text rest ih =>
      rw [marksIn, Nat.add_eq_zero_iff, ih, countSlots_eq_zero_iff, List.forall_mem_cons]

theorem countSlots_intercalate (hplain : Plain separator) (hne : separator ≠ "")
    (texts : List String) : countSlots (separator.intercalate texts) = marksIn texts := by
  induction texts with
  | nil => simp [countSlots, splitSlots]
  | cons text rest ih =>
      cases rest with
      | nil => simp
      | cons next more =>
          rw [String.intercalate_cons_cons, countSlots_separated hplain hne, ih]
          rfl

end Texts

end SqlText
