import SqlText.Dialect.Presets
import SqlText.Proofs.Placeholder.Binding
import SqlText.Proofs.Placeholder.Marks
import SqlText.Proofs.Text.Words

/-!
# Marks as a code

Plain markup is a sequence of tokens: fragments of text, marks of unnamed parameters and marks
of names, one right after the other in any order.  What the tokens were can be told from the
text that they make, because the first character of a token says of which kind it is: a
character of a fragment is not reserved, and the two kinds of marks start with two different
characters that are.  The mark of an unnamed parameter then has a fixed length, and that of a
name goes on to the first character of an end, which no plain name has.  Only how fragments
were cut into smaller ones, perhaps empty ones, leaves no trace (`encode_eq_iff`).

```text
tokens     name a                   name b                   unnamed
text       \x05 \x06 a \x06 \x05    \x05 \x06 b \x06 \x05    \x01 \x02 \x03 \x04
```

A pass turns the marks of one kind into fragments and leaves those of the other kind alone.  If
placeholders are plain, the outcome is plain markup again, so the other pass finds its marks as
if the first one had not been there, and it makes no difference which of them comes first
(`fill_fill_comm`).
-/

namespace SqlText

/-! ## Letters -/

/-- What plain markup is made of when fragments are cut into single characters. -/
inductive Letter
  | char (c : Char)
  | slot
  | named (name : String)
deriving DecidableEq, Repr

namespace Letter

/-- The characters that stand for a letter. -/
def code : Letter → List Char
  | char c => [c]
  | slot => slotMark.toList
  | named name => nameStart.toList ++ (name.toList ++ nameEnd.toList)

/-- The character or the name of a letter has nothing reserved. -/
def Plain : Letter → Prop
  | char c => Text.isReserved c = false
  | slot => True
  | named name => Text.Plain name

theorem code_ne_nil (letter : Letter) : letter.code ≠ [] := by
  cases letter <;> exact List.cons_ne_nil _ _

/-- A plain name ends where its mark does. -/
theorem eq_of_append_nameEnd {name other : String} (hname : Text.Plain name)
    (hother : Text.Plain other) {rest others : List Char}
    (h : name.toList ++ (nameEnd.toList ++ rest) = other.toList ++ (nameEnd.toList ++ others)) :
    name = other ∧ rest = others := by
  have hin : ∀ {name : String}, Text.Plain name → ∀ c ∈ name.toList, (c != '\x06') = true :=
    fun hplain c hc => bne_iff_ne.mpr (ne_of_plain hplain (by decide) c hc)
  have hend : ∀ rest : List Char, ∀ c ∈ (nameEnd.toList ++ rest).head?, (c != '\x06') = false := by
    intro rest c hc
    obtain rfl : '\x06' = c := Option.some.inj hc
    rfl
  obtain ⟨hchars, hbehind⟩ :=
    Text.eq_of_append_class (hin hname) (hin hother) (hend rest) (hend others) h
  exact ⟨String.toList_inj.mp hchars, List.append_cancel_left hbehind⟩

/-- A letter is determined by any text that begins with it. -/
theorem eq_of_append {letter other : Letter} (hletter : letter.Plain) (hother : other.Plain)
    {rest others : List Char} (h : letter.code ++ rest = other.code ++ others) :
    letter = other ∧ rest = others := by
  have hne : ∀ {c mark : Char}, Text.isReserved c = false → Text.isReserved mark = true →
      c ≠ mark := by
    rintro c mark hc hmark rfl
    rw [hmark] at hc
    cases hc
  cases letter with
  | char c =>
      cases other with
      | char c' =>
          obtain ⟨rfl, rfl⟩ := List.cons.inj h
          exact ⟨rfl, rfl⟩
      | slot | named name =>
          have hfirst := (List.cons.inj h).1
          exact absurd hfirst (hne hletter (by decide))
  | slot =>
      cases other with
      | char c => exact absurd (List.cons.inj h).1.symm (hne hother (by decide))
      | slot => exact ⟨rfl, List.append_cancel_left h⟩
      | named name => exact absurd (List.cons.inj h).1 (by decide)
  | named name =>
      cases other with
      | char c => exact absurd (List.cons.inj h).1.symm (hne hother (by decide))
      | slot => exact absurd (List.cons.inj h).1 (by decide)
      | named name' =>
          simp only [code, List.append_assoc] at h
          obtain ⟨rfl, rfl⟩ := eq_of_append_nameEnd hletter hother (List.append_cancel_left h)
          exact ⟨rfl, rfl⟩

/-- Letters are determined by the text that they make. -/
theorem eq_of_flatMap_code_eq {letters others : List Letter}
    (hletters : ∀ letter ∈ letters, letter.Plain) (hothers : ∀ letter ∈ others, letter.Plain)
    (h : letters.flatMap code = others.flatMap code) : letters = others := by
  induction letters generalizing others with
  | nil =>
      cases others with
      | nil => rfl
      | cons other others => simp [code_ne_nil] at h
  | cons letter letters ih =>
      cases others with
      | nil => simp [code_ne_nil] at h
      | cons other others =>
          obtain ⟨hletter, hrest⟩ := List.forall_mem_cons.mp hletters
          obtain ⟨hother, hmore⟩ := List.forall_mem_cons.mp hothers
          rw [List.flatMap_cons, List.flatMap_cons] at h
          obtain ⟨rfl, hbehind⟩ := eq_of_append hletter hother h
          rw [ih hrest hmore hbehind]

end Letter

/-- The letters of a piece. -/
def Piece.letters : Piece → List Letter
  | .text content => content.toList.map .char
  | .slot => [.slot]
  | .named name => [.named name]

theorem Piece.flatMap_code_letters (piece : Piece) :
    piece.letters.flatMap Letter.code = piece.encode.toList := by
  cases piece with
  | text content => simp [letters, encode, List.flatMap_map, Letter.code]
  | slot => simp [letters, encode, Letter.code]
  | named name => simp [letters, encode, Letter.code]

theorem Piece.Plain.letters {piece : Piece} (h : piece.Plain) :
    ∀ letter ∈ piece.letters, letter.Plain := by
  cases piece with
  | text content =>
      intro letter hletter
      obtain ⟨c, hc, rfl⟩ := List.mem_map.mp hletter
      exact Text.plain_iff.mp h c hc
  | slot => exact List.forall_mem_singleton.mpr trivial
  | named name => exact List.forall_mem_singleton.mpr h

namespace Markup

/-- The letters of markup, in order. -/
def letters (markup : Markup) : List Letter :=
  markup.flatMap Piece.letters

theorem flatMap_code_letters (markup : Markup) :
    markup.letters.flatMap Letter.code = markup.encode.toList := by
  induction markup with
  | nil => rfl
  | cons piece rest ih =>
      rw [letters, List.flatMap_cons, List.flatMap_append, piece.flatMap_code_letters, encode_cons,
        String.toList_append, ← ih]
      rfl

theorem Plain.letters {markup : Markup} (h : markup.Plain) :
    ∀ letter ∈ markup.letters, letter.Plain := by
  intro letter hletter
  obtain ⟨piece, hpiece, hmem⟩ := List.mem_flatMap.mp hletter
  exact (h piece hpiece).letters letter hmem

/-- The text of plain markup says what its tokens are, but for the way in which its fragments
were cut. -/
theorem encode_eq_iff {markup other : Markup} (h : markup.Plain) (hother : other.Plain) :
    markup.encode = other.encode ↔ markup.letters = other.letters := by
  rw [← String.toList_inj, ← flatMap_code_letters, ← flatMap_code_letters]
  constructor
  · exact Letter.eq_of_flatMap_code_eq h.letters hother.letters
  · intro hletters
    rw [hletters]

/-! ## One pass after the other -/

variable {dialect : Dialect} {chosen other : Piece → Bool}

/-- Places of two kinds can be filled in either order. -/
theorem fill_fill_comm (hchosen : ∀ content, chosen (.text content) = false)
    (hother : ∀ content, other (.text content) = false)
    (hdisjoint : ∀ piece, chosen piece = true → other piece = false) (markup : Markup)
    (first second : Nat) :
    (markup.fill dialect chosen first).fill dialect other second =
      (markup.fill dialect other second).fill dialect chosen first := by
  induction markup generalizing first second with
  | nil => rfl
  | cons piece rest ih =>
      by_cases hpiece : chosen piece
      · simp [fill, hpiece, hdisjoint piece hpiece, hother, ih]
      · by_cases hplace : other piece
        · simp [fill, hpiece, hplace, hchosen, ih]
        · simp [fill, hpiece, hplace, ih]

/-- Filling unnamed places leaves the names. -/
theorem names_fill_isSlot (markup : Markup) (position : Nat) :
    (markup.fill dialect Piece.isSlot position).names = markup.names := by
  induction markup generalizing position with
  | nil => rfl
  | cons piece rest ih =>
      simp only [names] at ih
      cases piece <;> simp [fill, Piece.isSlot, names, Piece.name?, List.filterMap_cons, ih]

end Markup

/-! ## Both passes -/

/-- Resolving after numbering finds the names that were there before it, and its text is the
one that numbering makes of what was resolved. -/
theorem exists_resolveNames_numberSlots {dialect : Dialect} {markup : Markup} (h : markup.Plain)
    (hmarker : Text.Plain (dialect.text .numberedParameter)) {named : NamedText}
    (hnamed : resolveNames dialect markup.encode = .ok named) :
    ∃ later, resolveNames dialect (numberSlots dialect markup.encode) = .ok later ∧
      later.positions = named.positions ∧ later.count = named.count ∧
      numberSlots dialect named.text = later.text := by
  have hnumbered := h.fill hmarker Piece.isSlot 1
  have hresolved := h.fill hmarker Piece.isNamed 1
  rw [resolveNames_encode dialect h] at hnamed
  obtain rfl := Except.ok.inj hnamed
  rw [numberSlots_encode dialect h, resolveNames_encode dialect hnumbered]
  refine ⟨_, rfl, ?_, ?_, ?_⟩
  · simp only [markup.names_fill_isSlot]
  · simp only [markup.names_fill_isSlot]
  · dsimp only
    rw [numberSlots_encode dialect hresolved,
      Markup.fill_fill_comm (fun _ => rfl) (fun _ => rfl) fun _ => Piece.isNamed_of_isSlot]

/-- Tokens in any order can be told from the text that they make, but for the way in which
fragments were cut.  The marks that are counted are the tokens of unnamed parameters, and a name
is held if there is a token of one.  Resolving succeeds in every dialect and finds the names of
the tokens, in their order.  With a plain marker it can be done before or after numbering. -/
theorem passes_over_tokens (dialect : Dialect) (markup : Markup) (h : markup.Plain) :
    (∀ other : Markup, other.Plain → other.encode = markup.encode →
        other.letters = markup.letters) ∧
      countSlots markup.encode = markup.countP Piece.isSlot ∧
      (hasNames markup.encode = true ↔ ∃ name, .named name ∈ markup) ∧
      ∃ named, resolveNames dialect markup.encode = .ok named ∧
        named.text = (markup.fill dialect Piece.isNamed 1).encode ∧
        named.count = markup.names.length ∧ named.positions.Locates markup.names ∧
        (Text.Plain (dialect.text .numberedParameter) →
          ∃ later, resolveNames dialect (numberSlots dialect markup.encode) = .ok later ∧
            later.positions = named.positions ∧ later.count = named.count ∧
            numberSlots dialect named.text = later.text) := by
  have hnamed := resolveNames_encode dialect h
  refine ⟨fun other hother hsame => (Markup.encode_eq_iff hother h).mp hsame,
    countSlots_encode h, ?_, _, hnamed, rfl, rfl, Positions.locates_ofNames _, fun hmarker => ?_⟩
  · rw [hasNames_encode h, List.any_eq_true]
    constructor
    · rintro ⟨piece, hmem, hpiece⟩
      cases piece with
      | named name => exact ⟨name, hmem⟩
      | text content | slot => cases hpiece
    · rintro ⟨name, hmem⟩
      exact ⟨.named name, hmem, rfl⟩
  · exact exists_resolveNames_numberSlots h hmarker hnamed

/-- Marks right next to each other, one of them of an empty name, and an empty fragment. -/
def crowdedMarkup : Markup :=
  [.named "b", .named "", .slot, .slot, .text "", .named "b", .text ")", .slot]

theorem passes_over_tokens_crowdedMarkup :
    crowdedMarkup.Plain ∧ countSlots crowdedMarkup.encode = 3 ∧
      ∃ named, resolveNames .sqlserver crowdedMarkup.encode = .ok named ∧ named.count = 3 ∧
        ∃ later, resolveNames .sqlserver (numberSlots .sqlserver crowdedMarkup.encode) = .ok later ∧
          later.positions = named.positions ∧ later.count = named.count ∧
          numberSlots .sqlserver named.text = later.text := by
  have hplain : crowdedMarkup.Plain := by
    simp only [crowdedMarkup, Markup.plain_cons, Markup.plain_nil, Piece.Plain]
    decide
  obtain ⟨-, hcount, -, named, hnamed, -, hnames, -, hcommute⟩ :=
    passes_over_tokens .sqlserver crowdedMarkup hplain
  exact ⟨hplain, hcount.trans (by decide), named, hnamed, hnames.trans (by decide),
    hcommute (by decide)⟩

end SqlText
