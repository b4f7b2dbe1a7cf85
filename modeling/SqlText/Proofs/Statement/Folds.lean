import SqlText.Dialect.Presets
import SqlText.Proofs.Placeholder.Marks
import SqlText.Proofs.Statement.Arrays

/-!
# Clauses taken together

`all?` and `any?` take a list of clauses together from the left, so their tree is as deep as
the list is long.  What is written for it is flat all the same: every clause but the first has
its parentheses, and all that are opened for what is in front of it stand at the start.

```text
clauses      text
a            a
a, b         (a) AND (b)
a, b, c      ((a) AND (b)) AND (c)
a, b, c, d   (((a) AND (b)) AND (c)) AND (d)
```

Both are one fold with an operator of its own.  A step of the fold puts what was written so
far and the next clause around the operator (`Clause.render_together`).  The induction over
the list therefore has any clause in front, and it says what is done with the markups of the
clauses while these are written in their order (`Clause.render_foldl`).  Success, the fault
that is reported, the text and the places are read off that one equation.
-/

namespace SqlText

open Markup (text)

variable {dialect : Dialect}

/-! ## Markups taken together -/

namespace Markup

/-- Two markups in parentheses around an operator. -/
def around (operator : String) (front last : Markup) : Markup :=
  text "(" ++ front ++ text ")" ++ text (" " ++ operator ++ " ") ++ (text "(" ++ last ++ text ")")

/-- Markups taken together from the left. -/
def together (operator : String) : List Markup → Markup
  | [] => []
  | first :: rest => rest.foldl (around operator) first

/-- The places of parameters, in order. -/
def places (markup : Markup) : Markup :=
  markup.filter fun piece => piece.isSlot || piece.isNamed

@[simp] theorem places_text (content : String) : (text content).places = [] :=
  rfl

@[simp] theorem places_append (first second : Markup) :
    (first ++ second : Markup).places = first.places ++ second.places := by
  simp [places]

@[simp] theorem places_around (operator : String) (front last : Markup) :
    (around operator front last).places = front.places ++ last.places := by
  simp [around]

/-- Places stay in the order of the markups, and there are no others. -/
theorem places_foldl (operator : String) (first : Markup) (rest : List Markup) :
    (rest.foldl (around operator) first).places = first.places ++ rest.flatMap places := by
  induction rest generalizing first with
  | nil => simp
  | cons next rest ih =>
      rw [List.foldl_cons, ih, places_around, List.flatMap_cons, List.append_assoc]

end Markup

/-- The text of clauses taken together, out of the texts of the clauses.  There are as many
opening parentheses in front of the first text as there are texts behind it, and each of
these closes one. -/
def textTogether (operator first : String) (rest : List String) : String :=
  String.join (List.replicate rest.length "(") ++ first ++
    String.join (rest.map fun next => ") " ++ operator ++ " (" ++ next ++ ")")

/-- The first two texts can be taken together first. -/
theorem textTogether_cons (operator first next : String) (rest : List String) :
    textTogether operator first (next :: rest) =
      textTogether operator ("(" ++ first ++ ") " ++ operator ++ " (" ++ next ++ ")") rest := by
  have hopen : String.join (List.replicate (rest.length + 1) "(") =
      String.join (List.replicate rest.length "(") ++ "(" := by
    rw [List.replicate_succ', String.join_append]
    rfl
  simp only [textTogether, List.length_cons, hopen, List.map_cons, String.join_cons,
    String.append_assoc]

theorem Markup.encode_around (operator : String) (front last : Markup) :
    (around operator front last).encode =
      "(" ++ front.encode ++ ") " ++ operator ++ " (" ++ last.encode ++ ")" := by
  simp only [around, encode_append, encode_text, String.append_assoc]
  rfl

theorem Markup.encode_foldl (operator : String) (first : Markup) (rest : List Markup) :
    (rest.foldl (around operator) first).encode =
      textTogether operator first.encode (rest.map encode) := by
  induction rest generalizing first with
  | nil => simp [textTogether]
  | cons next rest ih =>
      rw [List.foldl_cons, ih, encode_around, List.map_cons, textTogether_cons]

/-! ## Clauses -/

namespace Clause

variable {operator : Condition} {clauses : List Clause} {folded : Clause}

/-- Two clauses under an operator. -/
def together (operator : Condition) (front last : Clause) : Clause :=
  binary (.clause front) operator (.clause last)

/-- Clauses taken together from the left. -/
def fold? (operator : Condition) : List Clause → Option Clause
  | [] => none
  | first :: rest => some (rest.foldl (together operator) first)

theorem all?_eq : all? = fold? .and := by
  funext clauses
  cases clauses <;> rfl

theorem any?_eq : any? = fold? .or := by
  funext clauses
  cases clauses <;> rfl

theorem render_together (hform : operator.form = .binary) (front last : Clause) :
    (together operator front last).render dialect = do
      let before ← front.render dialect
      let behind ← last.render dialect
      return Markup.around operator.text before behind := by
  simp only [together, binary, render_binary hform, Operand.render, bind_assoc, pure_bind]
  rfl

/-- The clauses are written in their order, each once, and then taken together. -/
theorem render_foldl (hform : operator.form = .binary) (first : Clause) (rest : List Clause) :
    (rest.foldl (together operator) first).render dialect = do
      let before ← first.render dialect
      let others ← rest.mapM (Clause.render dialect)
      return others.foldl (Markup.around operator.text) before := by
  induction rest generalizing first with
  | nil => simp
  | cons next rest ih =>
      rw [List.foldl_cons, ih, render_together hform]
      simp only [List.mapM_cons, bind_assoc, pure_bind, List.foldl_cons]

theorem render_fold? (hform : operator.form = .binary) (h : fold? operator clauses = some folded) :
    folded.render dialect =
      (clauses.mapM (Clause.render dialect)).map (Markup.together operator.text) := by
  cases clauses with
  | nil => cases h
  | cons first rest =>
      obtain rfl := Option.some.inj h
      rw [render_foldl hform, List.mapM_cons]
      cases first.render dialect with
      | error fault => rfl
      | ok before => cases rest.mapM (Clause.render dialect) <;> rfl

/-- Clauses taken together under an operator, told by what is written for them. -/
structure Folds (dialect : Dialect) (operator : String) (fold? : List Clause → Option Clause) :
    Prop where
  none_iff : ∀ clauses, fold? clauses = none ↔ clauses = []
  single : ∀ clause, fold? [clause] = some clause
  succeeds_iff : ∀ clauses folded, fold? clauses = some folded →
    ((∃ markup, folded.render dialect = .ok markup) ↔
      ∀ clause ∈ clauses, ∃ markup, clause.render dialect = .ok markup)
  fails_iff : ∀ clauses folded fault, fold? clauses = some folded →
    (folded.render dialect = .error fault ↔ FirstFails (Clause.render dialect) clauses fault)
  written : ∀ clauses folded first rest, fold? clauses = some folded →
    clauses.map (Clause.render dialect) = (first :: rest).map .ok →
    ∃ markup, folded.render dialect = .ok markup ∧
      markup.encode = textTogether operator first.encode (rest.map Markup.encode) ∧
      markup.places = (first :: rest).flatMap Markup.places

theorem folds (operator : Condition) (hform : operator.form = .binary) :
    Folds dialect operator.text (fold? operator) where
  none_iff clauses := by cases clauses <;> simp [fold?]
  single _ := rfl
  succeeds_iff clauses folded h := by
    rw [← exists_mapM_eq_ok_iff, render_fold? hform h]
    simp only [map_eq_ok]
    constructor
    · rintro ⟨_, markups, hmarkups, -⟩
      exact ⟨markups, hmarkups⟩
    · rintro ⟨markups, hmarkups⟩
      exact ⟨_, markups, hmarkups, rfl⟩
  fails_iff clauses folded fault h := by
    rw [render_fold? hform h, map_eq_error, mapM_eq_error_iff]
  written clauses folded first rest h hparts := by
    refine ⟨_, ?_, Markup.encode_foldl operator.text first rest, ?_⟩
    · rw [render_fold? hform h, mapM_eq_ok_iff.mpr hparts]
      rfl
    · rw [Markup.places_foldl, List.flatMap_cons]

/-- All clauses or any of them: nothing is lost or regrouped when clauses are taken together.
There is a clause unless there are none to take, it can be written if all of them can, and its
text and its places are those of the clauses, in their order and each once. -/
theorem all_any_fold (dialect : Dialect) :
    Folds dialect "AND" all? ∧ Folds dialect "OR" any? := by
  rw [all?_eq, any?_eq]
  exact ⟨folds .and rfl, folds .or rfl⟩

/-- Three clauses, and the clause that fails when two of them cannot be written. -/
theorem all_any_fold_three :
    (∃ folded, any? [isNull (.value (.bool true)), isNotNull (.value (.bool false)),
        isNotNull (.value (.bool true))] = some folded ∧
      (folded.render .postgres).map Markup.encode =
        .ok "((TRUE IS NULL) OR (FALSE IS NOT NULL)) OR (TRUE IS NOT NULL)") ∧
      ∃ folded, all? [isNull (.value (.bool true)), isNull (.value (.string "\x02")),
          isNull (.value (.string "\x01"))] = some folded ∧
        folded.render .postgres = .error (.reservedInString "\x02") := by
  obtain ⟨hall, hany⟩ := all_any_fold .postgres
  refine ⟨⟨_, rfl, ?_⟩, ⟨_, rfl, ?_⟩⟩
  · obtain ⟨markup, hmarkup, htext, -⟩ := hany.written
      [isNull (.value (.bool true)), isNotNull (.value (.bool false)),
        isNotNull (.value (.bool true))] _ [.text "TRUE", .text " IS NULL"]
      [[.text "FALSE", .text " IS NOT NULL"], [.text "TRUE", .text " IS NOT NULL"]] rfl rfl
    rw [hmarkup, Except.map, htext]
    rfl
  · refine (hall.fails_iff _ _ _ rfl).mpr ⟨[isNull (.value (.bool true))],
      isNull (.value (.string "\x02")), [isNull (.value (.string "\x01"))], rfl,
      fun other hother => ?_, rfl⟩
    obtain rfl := List.mem_singleton.mp hother
    exact ⟨_, rfl⟩

end Clause

end SqlText
