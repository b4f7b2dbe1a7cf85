import SqlText.Dialect.Presets
import SqlText.Proofs.Statement.Reads

/-!
# Elements of arrays

An array holds items of one type, and they are written by functions of their own.  Written
this way, an item has the text that it would have as an operand of its own, and it fails if
that operand would: the elements of an array are the list `Elements.operands`, written one
after the other (`Operand.renderElements_eq_mapM`).

So a value looks in a list of values or at an end of a range as it looks in a comparison.
The array is written around its elements in two ways, and each takes what was written for
the left operand and for the elements as it is.

```text
operator                 elements    text
BETWEEN, NOT BETWEEN     low, high   left operator low AND high
IN, NOT IN               at least 1  left operator (first, …, last)
```
-/

namespace SqlText

open Markup (text joined)

variable {dialect : Dialect}

/-! ## Elements as operands -/

namespace Elements

variable {elements : Elements}

theorem length_operands (elements : Elements) :
    elements.operands.length = elements.length := by
  cases elements <;> simp [operands, length]

theorem operands_ne_nil (h : elements.length ≠ 0) : elements.operands ≠ [] := by
  rwa [← length_operands, Ne, List.length_eq_zero_iff] at h

theorem exists_operands_pair (h : elements.length = 2) :
    ∃ low high, elements.operands = [low, high] := by
  rw [← length_operands] at h
  rcases hoperands : elements.operands with _ | ⟨low, _ | ⟨high, _ | ⟨next, rest⟩⟩⟩
  · simp [hoperands] at h
  · simp [hoperands] at h
  · exact ⟨low, high, rfl⟩
  · simp [hoperands] at h

end Elements

namespace Operand

variable {operand : Operand} {elements : Elements}

/-- The elements of an array operand are its operands, written one after the other. -/
theorem renderElements_eq_mapM (elements : Elements) :
    renderElements dialect (.array elements) =
      (elements.operands.mapM (Operand.render dialect)).map some := by
  rw [renderElements_array, mapM_entriesOf]

theorem renderElements_array_eq_ok {markups : List Markup} :
    renderElements dialect (.array elements) = .ok (some markups) ↔
      elements.operands.map (Operand.render dialect) = markups.map .ok := by
  rw [renderElements_eq_mapM, map_eq_ok, ← mapM_eq_ok_iff]
  simp

theorem renderElements_eq_none_iff :
    operand.renderElements dialect = .ok none ↔ operand.isArray = false := by
  cases operand with
  | array elements =>
      have hnone : renderElements dialect (.array elements) ≠ .ok none := by
        rw [renderElements_eq_mapM, Ne, map_eq_ok]
        simp
      exact iff_of_false hnone Bool.noConfusion
  | _ => exact iff_of_true rfl rfl

/-- What is written for the elements of an array operand, told by its elements as operands of
their own. -/
structure WritesElements (dialect : Dialect) (operand : Operand) (elements : Elements) : Prop where
  succeeds_iff : (∃ markups, operand.renderElements dialect = .ok (some markups)) ↔
    ∀ item ∈ elements.operands, ∃ markup, item.render dialect = .ok markup
  fails_iff : ∀ fault, operand.renderElements dialect = .error fault ↔
    FirstFails (Operand.render dialect) elements.operands fault
  markups : ∀ markups, operand.renderElements dialect = .ok (some markups) →
    operand.arrayLength? = some markups.length ∧
      elements.operands.map (Operand.render dialect) = markups.map .ok

theorem writesElements (elements : Elements) :
    WritesElements dialect (.array elements) elements := by
  refine ⟨?_, fun fault => ?_, fun markups h => ?_⟩
  · rw [← exists_mapM_eq_ok_iff]
    simp only [renderElements_array_eq_ok, mapM_eq_ok_iff]
  · rw [renderElements_eq_mapM, map_eq_error, mapM_eq_error_iff]
  · have hmap := renderElements_array_eq_ok.mp h
    have hlength : elements.length = markups.length := by
      calc elements.length = (elements.operands.map (Operand.render dialect)).length := by
            rw [List.length_map, Elements.length_operands]
        _ = markups.length := by rw [hmap, List.length_map]
    exact ⟨congrArg some hlength, hmap⟩

end Operand

/-! ## Arrays in clauses -/

theorem Markup.encode_text (content : String) : (text content).encode = content := by
  simp [text, Piece.encode]

theorem Markup.encode_joined (separator : String) (parts : List Markup) :
    (joined separator parts).encode = separator.intercalate (parts.map Markup.encode) := by
  induction parts with
  | nil => simp [joined]
  | cons part rest ih =>
      cases rest with
      | nil => simp [joined]
      | cons next more =>
          rw [joined_cons rfl, encode_append, encode_append, ih, encode_text]
          simp only [List.map_cons, String.intercalate_cons_cons]

namespace Clause

variable {condition : Condition} {whenEmpty : String} {left : Operand} {elements : Elements}
  {subject : Markup}

/-- A list that is not empty is written between parentheses. -/
theorem render_memberOfElements (hform : condition.form = .membership whenEmpty)
    (hleft : left.render dialect = .ok subject) {items : List Markup} (hne : items ≠ [])
    (hitems : elements.operands.map (Operand.render dialect) = items.map .ok) :
    (Clause.render dialect (.binary left condition (.array elements))).map Markup.encode =
      .ok (subject.encode ++ (" " ++ condition.text ++ " (") ++
        ", ".intercalate (items.map Markup.encode) ++ ")") := by
  rw [binary, render_member hform array_ne_query, hleft, ok_bind,
    Operand.renderElements_array_eq_ok.mpr hitems, ok_bind]
  cases items with
  | nil => exact absurd rfl hne
  | cons first rest =>
      show Except.ok _ = Except.ok _
      simp only [Markup.encode_append, Markup.encode_text, Markup.encode_joined]

theorem render_rangeOfElements (hform : condition.form = .range)
    (hleft : left.render dialect = .ok subject) {low high : Markup}
    (hitems : elements.operands.map (Operand.render dialect) = [low, high].map .ok) :
    (Clause.render dialect (.binary left condition (.array elements))).map Markup.encode =
      .ok (subject.encode ++ (" " ++ condition.text ++ " ") ++ low.encode ++ " AND " ++
        high.encode) := by
  rw [binary, render_range hform, hleft, ok_bind,
    Operand.renderElements_array_eq_ok.mpr hitems, ok_bind]
  show Except.ok _ = Except.ok _
  simp only [Markup.encode_append, Markup.encode_text]

end Clause

/-- What is written around the elements of an array operand, for a left operand and for
elements that are written on their own. -/
structure Operand.IsWrittenAround (dialect : Dialect) (operand left : Operand) (subject : Markup)
    (items : List Markup) : Prop where
  inList : items ≠ [] →
    (Clause.render dialect (.binary left .inList operand)).map Markup.encode =
      .ok (subject.encode ++ " IN (" ++ ", ".intercalate (items.map Markup.encode) ++ ")")
  notInList : items ≠ [] →
    (Clause.render dialect (.binary left .notInList operand)).map Markup.encode =
      .ok (subject.encode ++ " NOT IN (" ++ ", ".intercalate (items.map Markup.encode) ++ ")")
  between : ∀ low high, items = [low, high] →
    (Clause.render dialect (.binary left .between operand)).map Markup.encode =
      .ok (subject.encode ++ " BETWEEN " ++ low.encode ++ " AND " ++ high.encode)
  notBetween : ∀ low high, items = [low, high] →
    (Clause.render dialect (.binary left .notBetween operand)).map Markup.encode =
      .ok (subject.encode ++ " NOT BETWEEN " ++ low.encode ++ " AND " ++ high.encode)

/-- Only array operands have elements that are written, and these are written like operands of
their own: all of them, in their order, up to the first that fails.  Membership tests and
ranges hold them as they are. -/
theorem Operand.elements_written (dialect : Dialect) (operand : Operand) :
    (operand.renderElements dialect = .ok none ↔ operand.isArray = false) ∧
      ∀ elements, operand.elements? = some elements →
        operand.WritesElements dialect elements ∧
          ∀ (left : Operand) (subject : Markup) (items : List Markup),
            left.render dialect = .ok subject →
            elements.operands.map (Operand.render dialect) = items.map .ok →
            operand.IsWrittenAround dialect left subject items := by
  refine ⟨renderElements_eq_none_iff, fun elements helements => ?_⟩
  obtain rfl : operand = .array elements := by
    cases operand <;> simp_all [elements?]
  refine ⟨writesElements elements, fun left subject items hleft hitems => ⟨?_, ?_, ?_, ?_⟩⟩
  · exact fun hne => Clause.render_memberOfElements rfl hleft hne hitems
  · exact fun hne => Clause.render_memberOfElements rfl hleft hne hitems
  · rintro low high rfl
    exact Clause.render_rangeOfElements rfl hleft hitems
  · rintro low high rfl
    exact Clause.render_rangeOfElements rfl hleft hitems

/-- Strings in a list, and the element that fails when two of them cannot be written. -/
theorem Operand.elements_written_strings :
    (Clause.render .postgres
        (.binary (.value (.bool true)) .notInList (.array (.strings ["a", "b"])))).map
          Markup.encode = .ok "TRUE NOT IN ('a', 'b')" ∧
      renderElements .postgres (.array (.strings ["a", "\x02", "\x01"])) =
        .error (.reservedInString "\x02") := by
  constructor
  · obtain ⟨-, h⟩ := (elements_written .postgres (.array (.strings ["a", "b"]))).2 _ rfl
    exact (h (.value (.bool true)) [.text "TRUE"] [[.text "'a'"], [.text "'b'"]] rfl rfl).notInList
      (List.cons_ne_nil _ _)
  · obtain ⟨h, -⟩ :=
      (elements_written .postgres (.array (.strings ["a", "\x02", "\x01"]))).2 _ rfl
    refine (h.fails_iff _).mpr ⟨[.value (.string "a")], .value (.string "\x02"),
      [.value (.string "\x01")], rfl, fun other hother => ?_, rfl⟩
    obtain rfl := List.mem_singleton.mp hother
    exact ⟨_, rfl⟩

end SqlText
