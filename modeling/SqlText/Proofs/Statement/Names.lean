import SqlText.Proofs.Placeholder.Binding
import SqlText.Proofs.Statement.OnePass

/-!
# Names of statements and their values

In a dialect without a marker for names, a statement whose parameters all have names
is built in two steps: nothing is numbered at first, and then each name becomes a
placeholder.  The placeholders stand for the names in the order of the text, so the
values that are bound to the names arrive where they belong.
-/

namespace SqlText

variable {dialect : Dialect} {layout : Layout}

/-- The names of the parameters in the text of a statement, in the order of the text. -/
def Statement.names (statement : Statement) : List String :=
  statement.written.filterMap Parameter.name?

/-- Without a marker for names, the named places of a layout are its named parameters. -/
theorem Layout.names_markup (hmarker : dialect.text? .namedParameter = none) (layout : Layout) :
    (layout.markup dialect).names = layout.parameters.filterMap Parameter.name? := by
  induction layout with
  | nil => rfl
  | cons fragment rest ih =>
      rw [markup_cons, Markup.names, List.filterMap_append, ← Markup.names, ← Markup.names, ih]
      rcases fragment with text | ⟨_ | name⟩
      · rfl
      · rfl
      · simp [Fragment.markup, Parameter.markup, hmarker, Markup.names, Piece.name?]

/-- Without unnamed parameters, building only fills the named places. -/
theorem Statement.exists_of_buildNamed_eq_ok {statement : Statement} {named : NamedText}
    (hdialect : dialect.Plain) (hstatement : statement.Plain)
    (hnamed : ∀ {layout}, Reads dialect (.statement statement) layout →
      ∀ parameter ∈ layout.parameters, parameter ≠ .unnamed)
    (h : statement.buildNamed dialect = .ok named) :
    ∃ layout, Reads dialect (.statement statement) layout ∧ (layout.markup dialect).Plain ∧
      named.text = ((layout.markup dialect).fill dialect Piece.isNamed 1).encode ∧
      named.positions = .ofNames (layout.markup dialect).names ∧
      named.count = (layout.markup dialect).names.length := by
  rw [buildNamed_eq] at h
  obtain ⟨sql, hsql, h⟩ := bind_eq_ok.mp h
  obtain ⟨layout, hreads, hplain, rfl⟩ := exists_of_build_eq_ok hdialect hstatement hsql
  -- nothing is numbered, so the markup itself is resolved
  have hslots : (layout.markup dialect).countP Piece.isSlot = 0 := by
    rw [layout.countP_markup, Layout.unnamed, List.countP_eq_zero]
    rintro ⟨_ | name⟩ hmem
    · exact absurd rfl (hnamed hreads _ hmem)
    · exact Bool.false_ne_true
  rw [Markup.fill_eq_self hslots, resolveNames_encode dialect hplain] at h
  obtain rfl := Except.ok.inj h
  exact ⟨layout, hreads, hplain, rfl, rfl, rfl⟩

/-- The placeholders that names become stand for these names, in the order of the
text, and are given the values of the names. -/
theorem Statement.serves_names {statement : Statement} {named : NamedText}
    (hdialect : dialect.Plain) (hmarker : dialect.text? .namedParameter = none)
    (hstatement : statement.Plain)
    (hwritten : ∀ parameter ∈ statement.written, parameter ≠ .unnamed)
    (h : statement.buildNamed dialect = .ok named) : named.Serves statement.names := by
  obtain ⟨layout, hreads, -, -, hpositions, hcount⟩ :=
    exists_of_buildNamed_eq_ok hdialect hstatement
      (fun hreads => by rwa [hreads.parameters_eq]) h
  have hnames : (layout.markup dialect).names = statement.names := by
    rw [layout.names_markup hmarker, hreads.parameters_eq]
    rfl
  rw [hnames] at hpositions hcount
  refine NamedText.serves_of_locates ?_ hcount
  rw [hpositions]
  exact Positions.locates_ofNames statement.names

/-- A deletion with three named placeholders, two of them for the same name. -/
def Delete.sample : Delete where
  table := ⟨"users"⟩
  slots := {
    Slots.empty with
    filter? := some (.and
      (.binary (.column ⟨"users", "age"⟩) .equal (.parameter (.named "x")))
      (.binary (.column ⟨"users", "rank"⟩) .between
        (.array (.parameters [.named "y", .named "x"])))) }

theorem Delete.buildNamed_sample :
    (Statement.delete .sample).buildNamed .postgres =
      .ok ⟨"DELETE FROM users WHERE (age = $1) AND (rank BETWEEN $2 AND $3)",
        .ofNames ["x", "y", "x"], 3⟩ := by
  rfl

theorem Statement.serves_names_sample :
    NamedText.Serves
      ⟨"DELETE FROM users WHERE (age = $1) AND (rank BETWEEN $2 AND $3)",
        .ofNames ["x", "y", "x"], 3⟩
      (Statement.delete .sample).names :=
  serves_names (by decide) rfl (by decide) (by decide) Delete.buildNamed_sample

end SqlText
