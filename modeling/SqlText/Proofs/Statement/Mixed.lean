import SqlText.Proofs.Statement.Faults
import SqlText.Proofs.Statement.OnePass

/-!
# Statements with both kinds of parameters

Building refuses a text with marks for both kinds of parameters.  It looks for these
marks in the finished text, and cannot see what they come from.  In the text of a
plain statement they come from parameters only: what is refused is decided by the
parameters that are written and by the marker for names (`Statement.Mixes`).
Nothing else that goes wrong is reported in these words, and nothing else keeps a
statement that can be written from being built.
-/

namespace SqlText

variable {dialect : Dialect} {layout : Layout}

/-! ## Marks of layouts -/

namespace Layout

theorem unnamed_pos_iff :
    0 < layout.unnamed ↔ ∃ parameter ∈ layout.parameters, parameter.name? = none := by
  simp [unnamed, List.countP_pos_iff]

theorem any_isNamed_fragment (fragment : Fragment) :
    (fragment.markup dialect).any Piece.isNamed = true ↔
      dialect.text? .namedParameter = none ∧
        ∃ parameter ∈ parameters [fragment], parameter.name? ≠ none := by
  rcases fragment with text | ⟨_ | name⟩
  · simp [Fragment.markup, Markup.text, Piece.isNamed]
  · simp [Fragment.markup, Parameter.markup, Piece.isNamed]
  · cases hmarker : dialect.text? .namedParameter with
    | none => simp [Fragment.markup, Parameter.markup, hmarker, Piece.isNamed]
    | some marker => simp [Fragment.markup, Parameter.markup, hmarker, Markup.text, Piece.isNamed]

/-- Without a marker for names, the named parameters of a layout are the named places
of its markup.  With a marker there are no such places. -/
theorem any_isNamed_markup (layout : Layout) :
    (layout.markup dialect).any Piece.isNamed = true ↔
      dialect.text? .namedParameter = none ∧
        ∃ parameter ∈ layout.parameters, parameter.name? ≠ none := by
  induction layout with
  | nil => simp
  | cons fragment rest ih =>
      have hparameters : parameters (fragment :: rest) = parameters [fragment] ++ parameters rest :=
        parameters_append [fragment] rest
      rw [markup_cons, List.any_append, Bool.or_eq_true, any_isNamed_fragment, ih, hparameters,
        ← and_or_left]
      simp only [List.mem_append, or_and_right, exists_or]

end Layout

/-! ## Building -/

namespace Statement

variable {statement : Statement}

/-- Parameters of both kinds are written, and both of them leave places to be
numbered. -/
def Mixes (statement : Statement) (dialect : Dialect) : Prop :=
  dialect.text? .namedParameter = none ∧
    (∃ parameter ∈ statement.written, parameter.name? = none) ∧
    ∃ parameter ∈ statement.written, parameter.name? ≠ none

instance (statement : Statement) (dialect : Dialect) : Decidable (statement.Mixes dialect) :=
  inferInstanceAs (Decidable (_ ∧ (∃ parameter ∈ statement.written, parameter.name? = none) ∧
    ∃ parameter ∈ statement.written, parameter.name? ≠ none))

/-- The marks of both kinds are found exactly in the texts of statements that mix
them. -/
theorem mixed_encode_iff (hdialect : dialect.Plain) (hstatement : statement.Plain)
    (hreads : Reads dialect (.statement statement) layout) :
    (0 < countSlots (layout.markup dialect).encode ∧
        hasNames (layout.markup dialect).encode = true) ↔ statement.Mixes dialect := by
  have hplain := hstatement.markup hdialect hreads
  rw [countSlots_encode hplain, hasNames_encode hplain, layout.countP_markup,
    Layout.unnamed_pos_iff, Layout.any_isNamed_markup, hreads.parameters_eq]
  exact and_left_comm

/-- What building gives for a statement that can be written. -/
theorem build_of_render {markup : Markup} (hdialect : dialect.Plain) (hstatement : statement.Plain)
    (hrender : statement.render dialect = .ok markup) :
    statement.build dialect =
      if statement.Mixes dialect then .error .mixedParameters
      else .ok (markup.fill dialect Piece.isSlot 1).encode := by
  obtain ⟨layout, hreads, rfl⟩ := render_eq_ok_iff.mp hrender
  have hplain := hstatement.markup hdialect hreads
  have hmixed := mixed_encode_iff hdialect hstatement hreads
  rw [build_eq, hrender, ok_bind, numberSlots_encode dialect hplain]
  by_cases hmixes : statement.Mixes dialect
  · rw [if_pos hmixes, if_pos (hmixed.mpr hmixes)]
  · rw [if_neg hmixes, if_neg fun hmarks => hmixes (hmixed.mp hmarks)]

/-- A statement that is not built could not be written, or mixes its parameters. -/
theorem fault_of_build_eq_error {fault : Fault} (h : statement.build dialect = .error fault) :
    statement.render dialect = .error fault ∨
      fault = .mixedParameters ∧ ∃ markup, statement.render dialect = .ok markup := by
  rw [build_eq] at h
  cases hrender : statement.render dialect with
  | error found =>
      rw [hrender] at h
      exact Or.inl (congrArg _ (Except.error.inj h))
  | ok markup =>
      rw [hrender, ok_bind] at h
      split at h
      · exact Or.inr ⟨(Except.error.inj h).symm, markup, rfl⟩
      · cases h

/-- A statement is refused for mixing its parameters exactly if it can be written and
does mix them, and every other statement that can be written is built. -/
theorem build_mixes_iff (hdialect : dialect.Plain) (hstatement : statement.Plain) :
    ((∃ fault, statement.build dialect = .error fault ∧
        fault.message = "statement mixes unnamed and named parameters") ↔
      (∃ markup, statement.render dialect = .ok markup) ∧ statement.Mixes dialect) ∧
    ∀ markup, statement.render dialect = .ok markup → ¬ statement.Mixes dialect →
      ∃ sql, statement.build dialect = .ok sql := by
  refine ⟨⟨?_, ?_⟩, ?_⟩
  · rintro ⟨fault, hbuild, hmessage⟩
    rcases fault_of_build_eq_error hbuild with hrender | ⟨rfl, markup, hrender⟩
    · -- no fault of writing is reported in these words
      have hwriting := statement.failsInWriting fault hrender
      exact absurd hmessage (Fault.message_ne_of_isOfWriting hwriting (Or.inl rfl))
    · rw [build_of_render hdialect hstatement hrender] at hbuild
      split at hbuild
      case isTrue hmixes => exact ⟨⟨markup, hrender⟩, hmixes⟩
      case isFalse => cases hbuild
  · rintro ⟨⟨markup, hrender⟩, hmixes⟩
    refine ⟨.mixedParameters, ?_, rfl⟩
    rw [build_of_render hdialect hstatement hrender, if_pos hmixes]
  · intro markup hrender hmixes
    rw [build_of_render hdialect hstatement hrender, if_neg hmixes]
    exact ⟨_, rfl⟩

end Statement

/-- A deletion with an unnamed parameter in a named query, and a named one among the
elements of an array.  A string next to them looks like the name. -/
def Delete.mixedSample : Delete where
  table := ⟨"orders"⟩
  slots := {
    Slots.empty with
    withTables := [⟨"recent", { Select.of ⟨"log"⟩ with columns := [.parameter .unnamed] }⟩]
    filter? := some (.and
      (.binary (.column ⟨"orders", "code"⟩) .equal (.value (.string "p")))
      (.binary (.column ⟨"orders", "age"⟩) .inList (.array (.parameters [.named "p"])))) }

/-- The deletion is refused where names are numbered, and built where they have a
marker. -/
theorem Statement.build_mixes_iff_sample :
    (∃ fault, (Statement.delete .mixedSample).build .postgres = .error fault ∧
      fault.message = "statement mixes unnamed and named parameters") ∧
    ∃ sql, (Statement.delete .mixedSample).build .sqlite = .ok sql :=
  ⟨(build_mixes_iff (by decide) (by decide)).1.mpr ⟨⟨_, rfl⟩, by decide⟩,
    (build_mixes_iff (by decide) (by decide)).2 _ rfl (by decide)⟩

end SqlText
