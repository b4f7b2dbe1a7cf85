import Mathlib.Data.List.Infix
import SqlText.Dialect.Presets

/-!
# Names between quotes

A name that holds a space is written between quotes, unless it stands between them already.
Whether it does is seen from three things: the name begins with the quote, it ends with the
quote, and it is at least as long as two quotes.  A quote is a text of any kind, and in a
shorter name the two of them can share characters.  From that length on they cannot, so the
name is something else with the quotes around it (`holdsQuotes_iff`).

```text
quote      a a
too short  a a a           the last character of one quote would be the first of the other
quoted     a a b a a       a name of a letter between two spaces, with the quotes around it
```

So a name either stays as it is or is put between quotes, and this happens to it only once.
Two names are written alike exactly if they are the same, or if one of them is what becomes of
the other when it is put between quotes (`identifier_eq_iff`).
-/

namespace SqlText.Dialect

/-- A name with the quotes of the dialect around it. -/
def quoted (dialect : Dialect) (name : String) : String :=
  dialect.text .identifierQuote ++ name ++ dialect.text .identifierQuote

/-- A name cannot be written as it is: the dialect has quotes, the name holds a space, and it
is not some other name with the quotes around it. -/
structure NeedsQuotes (dialect : Dialect) (name : String) : Prop where
  quote_ne_empty : dialect.text .identifierQuote ≠ ""
  space_mem : ' ' ∈ name.toList
  ne_quoted : ∀ inner, name ≠ dialect.quoted inner

/-! ## The test for quotes -/

section Quotes

variable {quote name : String}

/-- What is no shorter than a text and is an end of it is the whole text. -/
theorem eq_of_suffix_of_utf8ByteSize_le (h : name.toList <:+ quote.toList)
    (hsize : quote.utf8ByteSize ≤ name.utf8ByteSize) : name = quote := by
  obtain ⟨front, hfront⟩ := h
  have hquote : quote = String.ofList front ++ name := by
    rw [← String.toList_inj, String.toList_append, String.toList_ofList, hfront]
  have hempty : (String.ofList front).utf8ByteSize = 0 := by
    rw [hquote, String.utf8ByteSize_append] at hsize
    omega
  rw [hquote, String.utf8ByteSize_eq_zero_iff.mp hempty, String.empty_append]

/-- In a name that is long enough for both quotes they do not overlap. -/
theorem holdsQuotes_iff :
    2 * quote.utf8ByteSize ≤ name.utf8ByteSize ∧ quote.toList <+: name.toList ∧
        quote.toList <:+ name.toList ↔
      ∃ inner, name = quote ++ inner ++ quote := by
  constructor
  · rintro ⟨hsize, ⟨chars, hchars⟩, hsuffix⟩
    obtain ⟨rest, rfl⟩ : ∃ rest : String, chars = rest.toList := ⟨.ofList chars, by simp⟩
    have hname : name = quote ++ rest := by
      rw [← String.toList_inj, String.toList_append, hchars]
    have hlong : quote.utf8ByteSize ≤ rest.utf8ByteSize := by
      rw [hname, String.utf8ByteSize_append] at hsize
      omega
    -- the last quote begins behind the first one, since there is room for it
    have hend : quote.toList <:+ rest.toList := by
      rcases List.suffix_or_suffix_of_suffix hsuffix ⟨quote.toList, hchars⟩ with hend | hend
      · exact hend
      · rw [eq_of_suffix_of_utf8ByteSize_le hend hlong]
    obtain ⟨inner, hinner⟩ := hend
    refine ⟨String.ofList inner, ?_⟩
    rw [← String.toList_inj, hname]
    simp [← hinner]
  · rintro ⟨inner, rfl⟩
    refine ⟨?_, ?_, ?_⟩
    · simp only [String.utf8ByteSize_append]
      omega
    · rw [String.append_assoc, String.toList_append]
      exact List.prefix_append _ _
    · rw [String.toList_append]
      exact List.suffix_append _ _

end Quotes

/-! ## Names in a dialect -/

variable {dialect : Dialect} {name : String}

theorem identifier_of_needsQuotes (h : dialect.NeedsQuotes name) :
    dialect.identifier name = dialect.quoted name := by
  have hunquoted := mt holdsQuotes_iff.mp (not_exists.mpr h.ne_quoted)
  have hquote := h.quote_ne_empty
  have hspace := h.space_mem
  simp_all [identifier, quoted]

theorem identifier_of_not_needsQuotes (h : ¬ dialect.NeedsQuotes name) :
    dialect.identifier name = name := by
  rw [identifier]
  split
  case isTrue => rfl
  case isFalse hbare =>
    split
    case isTrue => rfl
    case isFalse hholds =>
      obtain ⟨hquote, hspace⟩ :
          dialect.text .identifierQuote ≠ "" ∧ ' ' ∈ name.toList := by
        simpa using hbare
      refine absurd ⟨hquote, hspace, fun inner hinner => hholds ?_⟩ h
      have hparts := holdsQuotes_iff.mpr ⟨inner, hinner⟩
      simpa [and_assoc] using hparts

theorem not_needsQuotes_quoted : ¬ dialect.NeedsQuotes (dialect.quoted name) :=
  fun h => h.ne_quoted name rfl

theorem quoted_inj {other : String} : dialect.quoted name = dialect.quoted other ↔ name = other := by
  constructor
  · intro h
    have hchars : name.toList = other.toList := by simpa [quoted] using congrArg String.toList h
    exact String.toList_inj.mp hchars
  · rintro rfl
    rfl

/-- What has been written for a name is a name that needs no quotes. -/
theorem not_needsQuotes_identifier (dialect : Dialect) (name : String) :
    ¬ dialect.NeedsQuotes (dialect.identifier name) := by
  by_cases h : dialect.NeedsQuotes name
  · rw [identifier_of_needsQuotes h]
    exact not_needsQuotes_quoted
  · rwa [identifier_of_not_needsQuotes h]

/-- What has been written for a name is written for itself.  Two names are written alike if
they are the same, or if one of them holds a space and needs quotes, and the other one is this
name with the quotes around it. -/
theorem identifier_eq_iff (dialect : Dialect) (first second : String) :
    dialect.identifier (dialect.identifier first) = dialect.identifier first ∧
      (dialect.identifier first = dialect.identifier second ↔
        first = second ∨
          (dialect.NeedsQuotes second ∧
            first = dialect.text .identifierQuote ++ second ++ dialect.text .identifierQuote) ∨
          (dialect.NeedsQuotes first ∧
            second = dialect.text .identifierQuote ++ first ++ dialect.text .identifierQuote)) := by
  refine ⟨identifier_of_not_needsQuotes (not_needsQuotes_identifier dialect first), ?_⟩
  change _ ↔ first = second ∨ (dialect.NeedsQuotes second ∧ first = dialect.quoted second) ∨
    (dialect.NeedsQuotes first ∧ second = dialect.quoted first)
  by_cases hfirst : dialect.NeedsQuotes first <;> by_cases hsecond : dialect.NeedsQuotes second
  · -- neither of them has the form of the other one in quotes
    rw [identifier_of_needsQuotes hfirst, identifier_of_needsQuotes hsecond, quoted_inj]
    have hne := hfirst.ne_quoted second
    have hne' := hsecond.ne_quoted first
    tauto
  · rw [identifier_of_needsQuotes hfirst, identifier_of_not_needsQuotes hsecond]
    have hne : first ≠ second := fun h => hsecond (h ▸ hfirst)
    tauto
  · rw [identifier_of_not_needsQuotes hfirst, identifier_of_needsQuotes hsecond]
    have hne : first ≠ second := fun h => hfirst (h ▸ hsecond)
    tauto
  · rw [identifier_of_not_needsQuotes hfirst, identifier_of_not_needsQuotes hsecond]
    tauto

/-- A name in which the quotes would overlap is put between quotes, once. -/
example :
    (ansi.withText .identifierQuote "a a").identifier "a a a" = "a aa a aa a" ∧
      (ansi.withText .identifierQuote "a a").identifier "a aa a aa a" = "a aa a aa a" := by
  decide

end SqlText.Dialect
