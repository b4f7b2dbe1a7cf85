import SqlText.Dialect.Presets
import SqlText.Dialect.Setting
import SqlText.Proofs.Calendar.Zones
import SqlText.Proofs.Statement.Sequence

/-!
# Dialects that pass their check

The check of a dialect looks at two things: whether its date pattern can be read and whether
numbered placeholders have a marker (`check_eq_ok_iff`).  That a pattern can be read does
not mean that a date can be written by it.  With a checked dialect this goes wrong for all
dates or for none: it goes wrong if the pattern asks for a time zone, and then the literal
of a date is the plain one (`formatDate?_of_check`).
-/

namespace SqlText.Dialect

open Calendar (AsksForZone DateTime Pattern TimeOfDay)

variable {dialect : Dialect}

/-! ## What is checked -/

theorem checkDatePattern_eq_ok_iff {name pattern : String} :
    checkDatePattern name pattern = .ok () ↔ (Pattern.ofString? pattern).isSome = true := by
  unfold checkDatePattern
  split <;> simp_all

/-- The date pattern of the dialect, if it has one, can be read. -/
def HasReadablePattern (dialect : Dialect) : Prop :=
  ∀ pattern, dialect.datePattern? = some pattern → (Pattern.ofString? pattern).isSome = true

instance : Decidable dialect.HasReadablePattern :=
  decidable_of_iff (dialect.datePattern?.all fun pattern => (Pattern.ofString? pattern).isSome)
    (Option.all_eq_true _ _)

/-- With a pattern that can be read, the check is about the marker. -/
theorem check_of_readable (h : dialect.HasReadablePattern) :
    dialect.check = if dialect.text .numberedParameter = "" then
      .error (.emptyMarker dialect.name) else .ok () := by
  unfold check
  cases hpattern : dialect.datePattern? with
  | none => split <;> rfl
  | some pattern =>
      dsimp only
      rw [checkDatePattern_eq_ok_iff.mpr (h pattern hpattern), ok_bind]
      split <;> rfl

theorem hasReadablePattern_of_check (h : dialect.check = .ok ()) : dialect.HasReadablePattern := by
  intro pattern hpattern
  unfold check at h
  rw [hpattern] at h
  obtain ⟨⟨⟩, hread, -⟩ := bind_eq_ok.mp h
  exact checkDatePattern_eq_ok_iff.mp hread

/-- A dialect passes its check if its date pattern can be read and its numbered placeholders
have a marker. -/
theorem check_eq_ok_iff :
    dialect.check = .ok () ↔
      dialect.HasReadablePattern ∧ dialect.text .numberedParameter ≠ "" := by
  constructor
  · intro h
    have hreadable := hasReadablePattern_of_check h
    refine ⟨hreadable, fun hempty => ?_⟩
    rw [check_of_readable hreadable, if_pos hempty] at h
    cases h
  · rintro ⟨hreadable, hmarker⟩
    rw [check_of_readable hreadable, if_neg hmarker]

/-! ## Dates -/

/-- In a checked dialect the pattern describes the literal of a date, unless it asks for a
time zone.  Then no date can be written by it, and literals of dates are plain. -/
theorem formatDate?_of_check (dialect : Dialect) (pattern : String) (moment : DateTime)
    (hcheck : dialect.check = .ok ()) (hpattern : dialect.datePattern? = some pattern) :
    (¬ AsksForZone pattern →
      ∃ text, dialect.formatDate? moment = some text ∧ dialect.literal (.date moment) = text) ∧
    (AsksForZone pattern →
      dialect.formatDate? moment = none ∧
        dialect.literal (.date moment) = singleQuoted moment.text) := by
  obtain ⟨read, hread⟩ := Option.isSome_iff_exists.mp ((check_eq_ok_iff.mp hcheck).1 _ hpattern)
  have hformat : dialect.formatDate? moment = moment.format? read := by
    simp only [formatDate?, hpattern, hread, Option.bind_eq_bind, Option.bind_some]
  have hzone : AsksForZone pattern ↔ .zone ∈ read.items := by
    simp only [Calendar.asksForZone_iff, hread, Option.some.injEq, exists_eq_left']
  have hnone : moment.format? read = none ↔ .zone ∈ read.items := DateTime.format?_eq_none_iff
  rw [hzone, ← hnone, ← hformat]
  constructor
  · intro hsome
    obtain ⟨text, htext⟩ := Option.ne_none_iff_exists'.mp hsome
    exact ⟨text, htext, by rw [literal, htext, Option.getD_some]⟩
  · intro hnone
    exact ⟨hnone, by rw [literal, hnone, Option.getD_none]⟩

/-- The ninth of March 2024, five minutes past two in the afternoon. -/
def sampleMoment : DateTime where
  date := ⟨2024, 3, 9, by decide, by decide⟩
  time := ⟨14, 5, 0, 0, by decide, by decide, by decide, by decide⟩

/-- The plain dialect with a pattern that asks for the offset from universal time. -/
def zonedDialect : Dialect :=
  { ansi with datePattern? := some "%Y-%m-%d %z" }

theorem check_zonedDialect : zonedDialect.check = .ok () :=
  check_eq_ok_iff.mpr (by decide)

theorem check_postgres : postgres.check = .ok () :=
  check_eq_ok_iff.mpr (by decide)

theorem formatDate?_of_check_samples :
    (postgres.check = .ok () ∧
      ∃ text, postgres.formatDate? sampleMoment = some text ∧
        postgres.literal (.date sampleMoment) = text) ∧
    (zonedDialect.check = .ok () ∧
      zonedDialect.formatDate? sampleMoment = none ∧
        zonedDialect.literal (.date sampleMoment) = singleQuoted sampleMoment.text) :=
  ⟨⟨check_postgres, (formatDate?_of_check _ _ sampleMoment check_postgres rfl).1 (by decide)⟩,
    ⟨check_zonedDialect,
      (formatDate?_of_check _ _ sampleMoment check_zonedDialect rfl).2 (by decide)⟩⟩

/-- A pattern by which no date can be written may be accepted for a dialect and pass its
check.  The literal of a date is then written without it. -/
theorem literal_zonedDialect :
    ansi.apply (.datePattern "%Y-%m-%d %z") = .ok zonedDialect ∧
      zonedDialect.check = .ok () ∧ zonedDialect.datePattern? = some "%Y-%m-%d %z" ∧
      zonedDialect.formatDate? sampleMoment = none ∧
      zonedDialect.literal (.date sampleMoment) = "'2024-03-09 14:05:00'" := by
  have haccepted : checkDatePattern ansi.name "%Y-%m-%d %z" = .ok () :=
    checkDatePattern_eq_ok_iff.mpr (by decide)
  refine ⟨?_, check_zonedDialect, rfl, by decide, by decide⟩
  rw [apply, haccepted, ok_bind]
  rfl

end SqlText.Dialect
