import Mathlib.Data.List.Induction
import SqlText.Dialect.Description
import SqlText.Dialect.Setting
import SqlText.Proofs.Dialect.Checked

/-!
# The last setting wins

Each setting writes some parts of a dialect and leaves the others as they are.  For every
part there is what a setting writes to it, if anything, and one step says that the part is
then what was written, or else what it was.  From this a whole run follows in the same way
for all parts: the part is what was written to it last (`eq_lastWritten`).

Only date patterns are checked on the way, so that a dialect keeps a pattern that can be
read.  What can make it fail its check is the marker of numbered placeholders, which no
setting checks: it fails if this marker was last made empty (`check_applyAll`).
-/

namespace SqlText

open Calendar (Pattern)

/-! ## What a setting writes -/

/-- The questions that a dialect answers. -/
inductive Flag
  | numbersParameters
  | allowsAnyOnQuery
  | dropIndexNamesTable
  | deleteListsTables
  | updateListsTables
deriving DecidableEq, Repr

/-- The answer of a dialect to a question. -/
def Dialect.flag (dialect : Dialect) : Flag → Bool
  | .numbersParameters => dialect.numbersParameters
  | .allowsAnyOnQuery => dialect.allowsAnyOnQuery
  | .dropIndexNamesTable => dialect.dropIndexNamesTable
  | .deleteListsTables => dialect.deleteListsTables
  | .updateListsTables => dialect.updateListsTables

namespace Setting

/-- The text that a setting writes for a key.  Two kinds of settings write the marker of
numbered placeholders. -/
def textFor? (key : Substitution) : Setting → Option String
  | .text other content => if key = other then some content else none
  | .numberedParameters marker _ => if key = .numberedParameter then some marker else none
  | _ => none

/-- The answer that a setting writes. -/
def flag? : Flag → Setting → Option Bool
  | .numbersParameters, .numberedParameters _ numbers => some numbers
  | .allowsAnyOnQuery, .allowsAnyOnQuery allowed => some allowed
  | .dropIndexNamesTable, .dropIndexNamesTable required => some required
  | .deleteListsTables, .deleteListsTables required => some required
  | .updateListsTables, .updateListsTables required => some required
  | _, _ => none

/-- The date pattern that a setting writes.  One that cannot be read is not accepted. -/
def acceptedPattern? : Setting → Option String
  | .datePattern pattern => if (Pattern.ofString? pattern).isSome then some pattern else none
  | _ => none

/-- A pattern is accepted if it can be read. -/
theorem isSome_of_acceptedPattern? {setting : Setting} {pattern : String}
    (h : setting.acceptedPattern? = some pattern) : (Pattern.ofString? pattern).isSome = true := by
  unfold acceptedPattern? at h
  split at h
  · rename_i given
    split at h
    · rename_i hread
      exact Option.some.inj h ▸ hread
    · cases h
  · cases h

end Setting

/-- What settings write to a part of a dialect last. -/
def lastWritten {α : Type} (written : Setting → Option α) (settings : List Setting) : Option α :=
  (settings.filterMap written).getLast?

theorem lastWritten_concat {α : Type} (written : Setting → Option α) (settings : List Setting)
    (setting : Setting) :
    lastWritten written (settings ++ [setting]) =
      (written setting).or (lastWritten written settings) := by
  unfold lastWritten
  rw [List.filterMap_append, List.getLast?_append]
  cases h : written setting <;> simp [h]

/-- What is written last is written by one of the settings. -/
theorem exists_of_lastWritten {α : Type} {written : Setting → Option α}
    {settings : List Setting} {value : α} (h : lastWritten written settings = some value) :
    ∃ setting ∈ settings, written setting = some value :=
  List.mem_filterMap.mp (List.mem_of_getLast? h)

namespace Dialect

/-! ## One setting -/

/-- The dialect with a setting applied, or as it is if the setting fails. -/
def applyOrSkip (dialect : Dialect) (setting : Setting) : Dialect :=
  (dialect.apply setting).toOption.getD dialect

variable (dialect : Dialect)

theorem applyAll_concat (settings : List Setting) (setting : Setting) :
    dialect.applyAll (settings ++ [setting]) =
      (dialect.applyAll settings).applyOrSkip setting := by
  simp only [applyAll, List.foldl_append, List.foldl_cons, List.foldl_nil, applyOrSkip]

/-- A date pattern that cannot be read leaves the dialect as it is. -/
theorem applyOrSkip_datePattern (pattern : String) :
    dialect.applyOrSkip (.datePattern pattern) =
      if (Pattern.ofString? pattern).isSome then { dialect with datePattern? := some pattern }
      else dialect := by
  simp only [applyOrSkip, apply, checkDatePattern]
  split <;> rfl

theorem text?_withText (key other : Substitution) (text : String) :
    (dialect.withText other text).text? key =
      (if key = other then some text else none).or (dialect.text? key) := by
  split
  · rename_i heq
    rw [heq, text?_withText_self, Option.some_or]
  · rename_i hne
    rw [text?_withText_of_ne dialect text hne, Option.none_or]

theorem text?_applyOrSkip (setting : Setting) (key : Substitution) :
    (dialect.applyOrSkip setting).text? key = (setting.textFor? key).or (dialect.text? key) := by
  cases setting with
  | text other text => exact dialect.text?_withText key other text
  | numberedParameters marker numbers => exact dialect.text?_withText key .numberedParameter marker
  | datePattern pattern =>
      rw [applyOrSkip_datePattern]
      split <;> rfl
  | _ => rfl

theorem flag_applyOrSkip (setting : Setting) (flag : Flag) :
    (dialect.applyOrSkip setting).flag flag = (setting.flag? flag).getD (dialect.flag flag) := by
  cases setting with
  | datePattern pattern =>
      rw [applyOrSkip_datePattern]
      split <;> cases flag <;> rfl
  | _ => cases flag <;> rfl

theorem datePattern?_applyOrSkip (setting : Setting) :
    (dialect.applyOrSkip setting).datePattern? =
      setting.acceptedPattern?.or dialect.datePattern? := by
  cases setting with
  | datePattern pattern =>
      rw [applyOrSkip_datePattern, Setting.acceptedPattern?]
      split <;> rfl
  | _ => rfl

theorem name_applyOrSkip (setting : Setting) :
    (dialect.applyOrSkip setting).name = dialect.name := by
  cases setting with
  | datePattern pattern =>
      rw [applyOrSkip_datePattern]
      split <;> rfl
  | _ => rfl

/-! ## All settings -/

/-- If each setting leaves in a part what it writes there, or else what is there, then
settings in a row leave what is written last, or else what was there. -/
theorem eq_lastWritten {α : Type} (part : Dialect → Option α) {written : Setting → Option α}
    (hstep : ∀ dialect setting,
      part (applyOrSkip dialect setting) = (written setting).or (part dialect))
    (settings : List Setting) :
    part (dialect.applyAll settings) = (lastWritten written settings).or (part dialect) := by
  induction settings using List.reverseRecOn with
  | nil => rfl
  | append_singleton settings last ih =>
      calc part (dialect.applyAll (settings ++ [last]))
          = (written last).or (part (dialect.applyAll settings)) := by
            rw [applyAll_concat, hstep]
        _ = (written last).or ((lastWritten written settings).or (part dialect)) := by rw [ih]
        _ = (lastWritten written (settings ++ [last])).or (part dialect) := by
            rw [lastWritten_concat, Option.or_assoc]

theorem text?_applyAll (settings : List Setting) (key : Substitution) :
    (dialect.applyAll settings).text? key =
      (lastWritten (Setting.textFor? key) settings).or (dialect.text? key) :=
  dialect.eq_lastWritten (fun dialect => dialect.text? key)
    (fun dialect setting => dialect.text?_applyOrSkip setting key) settings

theorem flag_applyAll (settings : List Setting) (flag : Flag) :
    (dialect.applyAll settings).flag flag =
      (lastWritten (Setting.flag? flag) settings).getD (dialect.flag flag) := by
  -- a flag always has a value
  apply Option.some.inj
  rw [← Option.or_some]
  refine dialect.eq_lastWritten (fun dialect => some (dialect.flag flag)) ?_ settings
  intro dialect setting
  rw [flag_applyOrSkip, Option.or_some]

theorem datePattern?_applyAll (settings : List Setting) :
    (dialect.applyAll settings).datePattern? =
      (lastWritten Setting.acceptedPattern? settings).or dialect.datePattern? :=
  dialect.eq_lastWritten datePattern? datePattern?_applyOrSkip settings

theorem name_applyAll (settings : List Setting) :
    (dialect.applyAll settings).name = dialect.name := by
  induction settings using List.reverseRecOn with
  | nil => rfl
  | append_singleton settings last ih => rw [applyAll_concat, name_applyOrSkip, ih]

/-! ## The check -/

variable {dialect}

/-- The date pattern is the one there was or an accepted one, which can be read. -/
theorem hasReadablePattern_applyAll (h : dialect.HasReadablePattern) (settings : List Setting) :
    (dialect.applyAll settings).HasReadablePattern := by
  intro pattern hpattern
  rw [datePattern?_applyAll, Option.or_eq_some_iff] at hpattern
  obtain hwritten | ⟨-, hkept⟩ := hpattern
  · obtain ⟨setting, -, haccepted⟩ := exists_of_lastWritten hwritten
    exact Setting.isSome_of_acceptedPattern? haccepted
  · exact h pattern hkept

/-- With a marker to begin with, there is none in the end if the last one is empty. -/
theorem text_numberedParameter_applyAll (h : dialect.text .numberedParameter ≠ "")
    (settings : List Setting) :
    (dialect.applyAll settings).text .numberedParameter = "" ↔
      lastWritten (Setting.textFor? .numberedParameter) settings = some "" := by
  rw [text, text?_applyAll]
  cases lastWritten (Setting.textFor? .numberedParameter) settings with
  | none => simpa [text] using h
  | some marker => simp

/-- A checked dialect fails its check after settings if they leave it without a marker. -/
theorem check_applyAll (h : dialect.check = .ok ()) (settings : List Setting) :
    (dialect.applyAll settings).check =
      if lastWritten (Setting.textFor? .numberedParameter) settings = some "" then
        .error (.emptyMarker dialect.name)
      else .ok () := by
  obtain ⟨hreadable, hmarker⟩ := check_eq_ok_iff.mp h
  rw [check_of_readable (hasReadablePattern_applyAll hreadable settings), name_applyAll]
  simp only [text_numberedParameter_applyAll hmarker]

/-! ## Dialects to begin with -/

/-- The dialects of common databases. -/
def presets : List Dialect :=
  [ansi, postgres, mysql, sqlite, sqlserver]

/-- A dialect to begin with: that of a common database, or one loaded from a document. -/
inductive Offered : Dialect → Prop
  | preset {dialect : Dialect} : dialect ∈ presets → Offered dialect
  | loaded {dialect : Dialect} {document : String} :
      ofToml document = .ok dialect → Offered dialect

theorem check_of_mem_presets (h : dialect ∈ presets) : dialect.check = .ok () := by
  have hall : ∀ dialect ∈ presets,
      dialect.HasReadablePattern ∧ dialect.text .numberedParameter ≠ "" := by decide
  exact check_eq_ok_iff.mpr (hall dialect h)

theorem check_of_ofTable {table : Toml.Table} (h : ofTable table = .ok dialect) :
    dialect.check = .ok () := by
  obtain ⟨described, -, h⟩ := bind_eq_ok.mp h
  obtain ⟨⟨⟩, hcheck, h⟩ := bind_eq_ok.mp h
  cases h
  exact hcheck

theorem Offered.check {dialect : Dialect} (h : dialect.Offered) : dialect.check = .ok () := by
  cases h with
  | preset hmem => exact check_of_mem_presets hmem
  | loaded hload =>
      unfold ofToml at hload
      split at hload
      · exact check_of_ofTable hload
      · cases hload

/-- Settings leave in every part of a dialect what was written to it last, or else what was
there; the name stays.  A dialect that was fine to begin with then fails its check exactly
if the last marker written is empty, and this is a fault of its configuration. -/
theorem applyAll_keeps_last (base : Dialect) (settings : List Setting) :
    (∀ key, (base.applyAll settings).text? key =
      (lastWritten (Setting.textFor? key) settings).or (base.text? key)) ∧
    (∀ flag, (base.applyAll settings).flag flag =
      (lastWritten (Setting.flag? flag) settings).getD (base.flag flag)) ∧
    (base.applyAll settings).datePattern? =
      (lastWritten Setting.acceptedPattern? settings).or base.datePattern? ∧
    (base.applyAll settings).name = base.name ∧
    (base.Offered →
      ((∃ fault, (base.applyAll settings).check = .error fault) ↔
        lastWritten (Setting.textFor? .numberedParameter) settings = some "") ∧
      ∀ fault, (base.applyAll settings).check = .error fault → fault.kind = .configuration) := by
  refine ⟨base.text?_applyAll settings, base.flag_applyAll settings,
    base.datePattern?_applyAll settings, base.name_applyAll settings, fun hoffered => ?_⟩
  rw [check_applyAll hoffered.check settings]
  split
  · rename_i hempty
    refine ⟨iff_of_true ⟨_, rfl⟩ hempty, fun fault hfault => ?_⟩
    rw [← Except.error.inj hfault]
    rfl
  · rename_i hmarker
    refine ⟨iff_of_false ?_ hmarker, fun fault hfault => ?_⟩
    · rintro ⟨fault, hfault⟩
      cases hfault
    · cases hfault

/-- Settings that write the marker twice, the second time as a plain text, and three patterns,
of which the last cannot be read. -/
def sampleSettings : List Setting :=
  [.numberedParameters "?" false, .datePattern "%d.%m.%Y", .text .numberedParameter "",
    .allowsAnyOnQuery false, .datePattern "%Y-%m-%d", .datePattern "%Q"]

theorem applyAll_keeps_last_sampleSettings :
    (postgres.applyAll sampleSettings).text? .numberedParameter = some "" ∧
      (postgres.applyAll sampleSettings).text? .now = some "NOW()" ∧
      (postgres.applyAll sampleSettings).flag .numbersParameters = false ∧
      (postgres.applyAll sampleSettings).flag .deleteListsTables = true ∧
      (postgres.applyAll sampleSettings).datePattern? = some "%Y-%m-%d" ∧
      (postgres.applyAll sampleSettings).name = "postgres" ∧
      postgres.Offered ∧
      (∃ fault, (postgres.applyAll sampleSettings).check = .error fault) ∧
      ∀ fault, (postgres.applyAll sampleSettings).check = .error fault →
        fault.kind = .configuration := by
  obtain ⟨htext, hflag, hdate, hname, hcheck⟩ := applyAll_keeps_last postgres sampleSettings
  have hoffered : postgres.Offered := .preset (.tail _ (.head _))
  obtain ⟨hfails, hkind⟩ := hcheck hoffered
  exact ⟨(htext _).trans (by decide), (htext _).trans (by decide), (hflag _).trans (by decide),
    (hflag _).trans (by decide), hdate.trans (by decide), hname, hoffered,
    hfails.mpr (by decide), hkind⟩

end Dialect

end SqlText
