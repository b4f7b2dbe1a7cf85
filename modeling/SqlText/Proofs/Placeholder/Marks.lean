import SqlText.Placeholder.Binding
import SqlText.Proofs.Dialect.Plain

/-!
# Marks are found exactly where they are

The passes over a text look for marks, not for pieces.  In the encoding of plain
markup the two are the same: a mark of an unnamed place starts with a character
that nothing else has, the mark of a named place has two of its own, and a plain
name ends only where its mark does.  So a pass over the encoding does what `fill`
does with the pieces: it puts placeholders into some of the places, numbered from
left to right, and leaves all else as it is.
-/

namespace SqlText

open Text

namespace Piece

/-- The text or name of a piece has no reserved character. -/
def Plain : Piece → Prop
  | .text content => Text.Plain content
  | .slot => True
  | .named name => Text.Plain name

/-- The place of an unnamed parameter. -/
def isSlot : Piece → Bool
  | .slot => true
  | _ => false

/-- The place of a named parameter. -/
def isNamed : Piece → Bool
  | .named _ => true
  | _ => false

/-- The name of a place. -/
def name? : Piece → Option String
  | .named name => some name
  | _ => none

theorem isNamed_of_isSlot {piece : Piece} (h : piece.isSlot = true) :
    piece.isNamed = false := by
  cases piece with
  | slot => rfl
  | text content | named name => cases h

theorem isSlot_of_isNamed {piece : Piece} (h : piece.isNamed = true) :
    piece.isSlot = false := by
  cases piece with
  | named name => rfl
  | text content | slot => cases h

end Piece

namespace Markup

/-- All pieces are plain. -/
def Plain (markup : Markup) : Prop :=
  ∀ piece ∈ markup, piece.Plain

@[simp] theorem plain_nil : Plain [] := by simp [Plain]

@[simp] theorem plain_cons {piece : Piece} {markup : Markup} :
    Plain (piece :: markup) ↔ piece.Plain ∧ Plain markup := by
  simp [Plain]

@[simp] theorem plain_append {first second : Markup} :
    Plain (first ++ second) ↔ Plain first ∧ Plain second := by
  simp [Plain, or_imp, forall_and]

@[simp] theorem plain_text {content : String} : Plain (text content) ↔ Text.Plain content := by
  simp [text, Piece.Plain]

/-- The names of places, in order. -/
def names (markup : Markup) : List String :=
  markup.filterMap Piece.name?

/-- Puts placeholders into the chosen places, the first of them at `position`. -/
def fill (dialect : Dialect) (chosen : Piece → Bool) : (position : Nat) → Markup → Markup
  | _, [] => []
  | position, piece :: rest =>
      if chosen piece then
        .text (dialect.placeholder position) :: fill dialect chosen (position + 1) rest
      else piece :: fill dialect chosen position rest

variable {dialect : Dialect} {chosen : Piece → Bool}

/-- Without places to choose there is nothing to fill. -/
theorem fill_eq_self {markup : Markup} (h : markup.countP chosen = 0) (position : Nat) :
    markup.fill dialect chosen position = markup := by
  induction markup generalizing position with
  | nil => rfl
  | cons piece rest ih =>
      have hpiece : ¬ chosen piece := by simp_all
      rw [fill, if_neg hpiece, ih (by simp_all)]

theorem fill_append (first second : Markup) (position : Nat) :
    (first ++ second : Markup).fill dialect chosen position =
      first.fill dialect chosen position ++
        second.fill dialect chosen (position + first.countP chosen) := by
  induction first generalizing position with
  | nil => rfl
  | cons piece rest ih =>
      rw [List.cons_append, fill, fill]
      by_cases hpiece : chosen piece
      · rw [if_pos hpiece, if_pos hpiece, ih, List.countP_cons_of_pos hpiece, Nat.add_assoc,
          Nat.add_comm 1]
        rfl
      · rw [if_neg hpiece, if_neg hpiece, ih, List.countP_cons_of_neg hpiece]
        rfl

/-- Placeholders with a plain marker keep markup plain. -/
theorem Plain.fill {markup : Markup} (h : markup.Plain)
    (hmarker : Text.Plain (dialect.text .numberedParameter)) (chosen : Piece → Bool)
    (position : Nat) : (markup.fill dialect chosen position).Plain := by
  induction markup generalizing position with
  | nil => exact plain_nil
  | cons piece rest ih =>
      obtain ⟨hpiece, hrest⟩ := plain_cons.mp h
      rw [Markup.fill]
      split
      · exact plain_cons.mpr ⟨dialect.plain_placeholder hmarker position, ih hrest _⟩
      · exact plain_cons.mpr ⟨hpiece, ih hrest _⟩

end Markup

/-! ## Characters of pieces -/

theorem ne_of_plain {text : String} (h : Plain text) {mark : Char}
    (hmark : isReserved mark = true) :
    ∀ c ∈ text.toList, c ≠ mark := by
  rintro c hc rfl
  rw [plain_iff.mp h c hc] at hmark
  exact Bool.false_ne_true hmark

/-- Only the mark of an unnamed place has the character with which it starts. -/
theorem Piece.ne_slotMark {piece : Piece} (h : piece.Plain) (hslot : piece.isSlot = false) :
    ∀ c ∈ piece.encode.toList, c ≠ '\x01' := by
  cases piece with
  | text content => exact ne_of_plain h (by decide)
  | slot => exact absurd hslot (by decide)
  | named name =>
      have hstart : ∀ c ∈ nameStart.toList, c ≠ '\x01' := by simp [nameStart]
      have hname : ∀ c ∈ name.toList, c ≠ '\x01' := ne_of_plain h (by decide)
      have hend : ∀ c ∈ nameEnd.toList, c ≠ '\x01' := by simp [nameEnd]
      simp only [Piece.encode, String.toList_append, List.mem_append]
      rintro c ((hc | hc) | hc)
      · exact hstart c hc
      · exact hname c hc
      · exact hend c hc

/-- Only the mark of a named place has the character with which it starts. -/
theorem Piece.ne_nameStart {piece : Piece} (h : piece.Plain) (hnamed : piece.isNamed = false) :
    ∀ c ∈ piece.encode.toList, c ≠ '\x05' := by
  cases piece with
  | text content => exact ne_of_plain h (by decide)
  | slot => simp [Piece.encode, slotMark]
  | named name => exact absurd hnamed (by simp [Piece.isNamed])

/-! ## Marks of unnamed places -/

theorem splitSlots_cons_of_not_start {c : Char} {rest : List Char}
    (h : ¬ slotMark.toList <+: c :: rest) :
    splitSlots (c :: rest) = (c :: (splitSlots rest).1, (splitSlots rest).2) := by
  rw [splitSlots]
  rintro tail rfl rfl
  exact h (List.prefix_append slotMark.toList tail)

theorem splitSlots_cons {c : Char} (hc : c ≠ '\x01') (rest : List Char) :
    splitSlots (c :: rest) = (c :: (splitSlots rest).1, (splitSlots rest).2) := by
  refine splitSlots_cons_of_not_start ?_
  rintro ⟨tail, htail⟩
  exact hc (List.cons.inj htail).1.symm

theorem splitSlots_append {chars : List Char} (h : ∀ c ∈ chars, c ≠ '\x01') (rest : List Char) :
    splitSlots (chars ++ rest) = (chars ++ (splitSlots rest).1, (splitSlots rest).2) := by
  induction chars with
  | nil => rfl
  | cons c chars ih =>
      rw [List.cons_append, splitSlots_cons (h c (List.mem_cons_self ..)),
        ih fun other hother => h other (List.mem_cons_of_mem _ hother)]
      rfl

theorem splitSlots_mark (rest : List Char) :
    splitSlots (slotMark.toList ++ rest) = ([], (splitSlots rest).1 :: (splitSlots rest).2) :=
  rfl

/-- Filling the fragments between the marks of plain markup fills its unnamed
places. -/
theorem fillSlots_encode (dialect : Dialect) {markup : Markup} (h : markup.Plain)
    (position : Nat) :
    (splitSlots markup.encode.toList).1 ++
        fillSlots dialect position (splitSlots markup.encode.toList).2 =
      (markup.fill dialect Piece.isSlot position).encode.toList := by
  induction markup generalizing position with
  | nil => rfl
  | cons piece rest ih =>
      obtain ⟨hpiece, hrest⟩ := Markup.plain_cons.mp h
      cases hslot : piece.isSlot with
      | true =>
          obtain rfl : piece = .slot := by cases piece <;> simp_all [Piece.isSlot]
          simp only [Markup.encode_cons, String.toList_append, Piece.encode, splitSlots_mark,
            fillSlots, Markup.fill, hslot, if_true, List.nil_append, List.append_assoc]
          rw [ih hrest]
      | false =>
          simp only [Markup.encode_cons, String.toList_append, Markup.fill, hslot,
            splitSlots_append (piece.ne_slotMark hpiece hslot), List.append_assoc]
          rw [ih hrest]
          simp

theorem length_splitSlots_encode {markup : Markup} (h : markup.Plain) :
    (splitSlots markup.encode.toList).2.length = markup.countP Piece.isSlot := by
  induction markup with
  | nil => rfl
  | cons piece rest ih =>
      obtain ⟨hpiece, hrest⟩ := Markup.plain_cons.mp h
      cases hslot : piece.isSlot with
      | true =>
          obtain rfl : piece = .slot := by cases piece <;> simp_all [Piece.isSlot]
          rw [Markup.encode_cons, String.toList_append, Piece.encode, splitSlots_mark,
            List.length_cons, ih hrest, List.countP_cons_of_pos hslot]
      | false =>
          rw [Markup.encode_cons, String.toList_append,
            splitSlots_append (piece.ne_slotMark hpiece hslot), ih hrest,
            List.countP_cons_of_neg (by simp [hslot])]

/-- The marks counted in the encoding of plain markup are its unnamed places. -/
theorem countSlots_encode {markup : Markup} (h : markup.Plain) :
    countSlots markup.encode = markup.countP Piece.isSlot :=
  length_splitSlots_encode h

/-- Numbering the encoding of plain markup fills its unnamed places. -/
theorem numberSlots_encode (dialect : Dialect) {markup : Markup} (h : markup.Plain) :
    numberSlots dialect markup.encode = (markup.fill dialect Piece.isSlot 1).encode := by
  rw [← String.toList_inj, numberSlots]
  simp [fillSlots_encode dialect h 1]

/-! ## Marks of named places -/

theorem splitNames?_cons_of_not_start {c : Char} {rest : List Char}
    (h : ∀ more, c = '\x05' → rest ≠ '\x06' :: more) :
    splitNames? (c :: rest) = (splitNames? rest).map fun split => (c :: split.1, split.2) := by
  rw [splitNames?]
  · cases splitNames? rest <;> rfl
  · exact h

theorem splitNames?_append {chars : List Char} (h : ∀ c ∈ chars, c ≠ '\x05') (rest : List Char) :
    splitNames? (chars ++ rest) =
      (splitNames? rest).map fun split => (chars ++ split.1, split.2) := by
  induction chars with
  | nil => simp
  | cons c chars ih =>
      have hc : c ≠ '\x05' := h c (List.mem_cons_self ..)
      rw [List.cons_append, splitNames?_cons_of_not_start fun _ hstart _ => hc hstart,
        ih fun other hother => h other (List.mem_cons_of_mem _ hother), Option.map_map]
      rfl

theorem splitInName?_cons_of_not_end {c : Char} {rest : List Char}
    (h : ∀ more, c = '\x06' → rest ≠ '\x05' :: more) :
    splitInName? (c :: rest) =
      (splitInName? rest).map fun split => (c :: split.1, split.2.1, split.2.2) := by
  rw [splitInName?]
  · cases splitInName? rest <;> rfl
  · exact h

/-- A name without the mark of its end in it is read as it is. -/
theorem splitInName?_append {name : List Char} (h : ¬ nameEnd.toList <:+: name)
    (rest : List Char) :
    splitInName? (name ++ (nameEnd.toList ++ rest)) =
      (splitNames? rest).map fun split => (name, split.1, split.2) := by
  induction name with
  | nil =>
      show splitInName? ('\x06' :: '\x05' :: rest) = _
      rw [splitInName?]
      cases splitNames? rest <;> rfl
  | cons c name ih =>
      -- the mark would have to start with this character
      have hend : ∀ more, c = '\x06' → name ++ (nameEnd.toList ++ rest) ≠ '\x05' :: more := by
        rintro more rfl hmore
        cases name with
        | nil => exact absurd (List.cons.inj hmore).1 (by decide)
        | cons next name =>
            obtain ⟨rfl, -⟩ := List.cons.inj hmore
            exact h ⟨[], name, rfl⟩
      have hbehind : ¬ nameEnd.toList <:+: name := fun hinfix => h (List.infix_cons hinfix)
      rw [List.cons_append, splitInName?_cons_of_not_end hend, ih hbehind, Option.map_map]
      rfl

theorem splitNames?_mark {name : String} (h : Plain name) (rest : List Char) :
    splitNames? ((Piece.named name).encode.toList ++ rest) =
      (splitNames? rest).map fun split => ([], (name.toList, split.1) :: split.2) := by
  rw [Piece.encode, String.toList_append, String.toList_append, List.append_assoc,
    List.append_assoc]
  have hend : ¬ nameEnd.toList <:+: name.toList := by
    intro hheld
    have hmem : '\x06' ∈ name.toList := hheld.subset (List.mem_cons_self ..)
    exact ne_of_plain h (by decide) _ hmem rfl
  show splitNames? ('\x05' :: '\x06' :: (name.toList ++ (nameEnd.toList ++ rest))) = _
  rw [splitNames?, splitInName?_append hend]
  cases splitNames? rest <;> rfl

/-- What stands before the first named place of markup, and every name with what
follows it, all encoded. -/
def Markup.splitNames : Markup → List Char × List (List Char × List Char)
  | [] => ([], [])
  | .named name :: rest => ([], (name.toList, (splitNames rest).1) :: (splitNames rest).2)
  | piece :: rest => (piece.encode.toList ++ (splitNames rest).1, (splitNames rest).2)

theorem Markup.splitNames_cons {piece : Piece} (h : piece.isNamed = false) (rest : Markup) :
    splitNames (piece :: rest) =
      (piece.encode.toList ++ rest.splitNames.1, rest.splitNames.2) := by
  cases piece <;> simp_all [splitNames, Piece.isNamed]

/-- The encoding of plain markup is split at its named places. -/
theorem splitNames?_encode {markup : Markup} (h : markup.Plain) :
    splitNames? markup.encode.toList = some markup.splitNames := by
  induction markup with
  | nil => rfl
  | cons piece rest ih =>
      obtain ⟨hpiece, hrest⟩ := Markup.plain_cons.mp h
      rw [Markup.encode_cons, String.toList_append]
      cases hnamed : piece.isNamed with
      | true =>
          obtain ⟨name, rfl⟩ : ∃ name, piece = .named name := by
            cases piece <;> simp_all [Piece.isNamed]
          rw [splitNames?_mark hpiece, ih hrest]
          rfl
      | false =>
          rw [splitNames?_append (piece.ne_nameStart hpiece hnamed), ih hrest,
            Markup.splitNames_cons hnamed]
          rfl

theorem Markup.map_splitNames (markup : Markup) :
    markup.splitNames.2.map (fun entry => String.ofList entry.1) = markup.names := by
  induction markup with
  | nil => rfl
  | cons piece rest ih =>
      rw [names, List.filterMap_cons]
      cases piece <;> simp [splitNames, Piece.name?, ih, names]

theorem Markup.length_splitNames (markup : Markup) :
    markup.splitNames.2.length = markup.names.length := by
  rw [← markup.map_splitNames, List.length_map]

/-- Filling what was split off at the named places of markup fills these places. -/
theorem Markup.fillNames_splitNames (dialect : Dialect) (markup : Markup) (position : Nat) :
    markup.splitNames.1 ++ fillNames dialect position markup.splitNames.2 =
      (markup.fill dialect Piece.isNamed position).encode.toList := by
  induction markup generalizing position with
  | nil => rfl
  | cons piece rest ih =>
      cases piece with
      | named name =>
          simp only [splitNames, fillNames, fill, Piece.isNamed, if_true, encode_cons,
            Piece.encode, String.toList_append, List.nil_append, List.append_assoc]
          rw [ih]
      | text content | slot =>
          simp only [splitNames, fill, Piece.isNamed, encode_cons, String.toList_append,
            List.append_assoc, Bool.false_eq_true, if_false]
          rw [ih]

/-- Resolving the encoding of plain markup fills its named places. -/
theorem resolveNames_encode (dialect : Dialect) {markup : Markup} (h : markup.Plain) :
    resolveNames dialect markup.encode =
      .ok {
        text := (markup.fill dialect Piece.isNamed 1).encode
        positions := .ofNames markup.names
        count := markup.names.length } := by
  rw [resolveNames, splitNames?_encode h]
  simp only [markup.fillNames_splitNames, markup.map_splitNames, markup.length_splitNames,
    String.ofList_toList]

theorem holdsName_append {chars : List Char} (h : ∀ c ∈ chars, c ≠ '\x05') (rest : List Char) :
    holdsName (chars ++ rest) = holdsName rest := by
  induction chars with
  | nil => rfl
  | cons c chars ih =>
      rw [List.cons_append, holdsName]
      · exact ih fun other hother => h other (List.mem_cons_of_mem _ hother)
      · exact fun _ hstart _ => h c (List.mem_cons_self ..) hstart

/-- The encoding of plain markup holds names if it has named places. -/
theorem hasNames_encode {markup : Markup} (h : markup.Plain) :
    hasNames markup.encode = markup.any Piece.isNamed := by
  rw [hasNames]
  induction markup with
  | nil => rfl
  | cons piece rest ih =>
      obtain ⟨hpiece, hrest⟩ := Markup.plain_cons.mp h
      rw [Markup.encode_cons, String.toList_append, List.any_cons]
      cases hnamed : piece.isNamed with
      | true =>
          obtain ⟨name, rfl⟩ : ∃ name, piece = .named name := by
            cases piece <;> simp_all [Piece.isNamed]
          rw [Piece.encode, String.toList_append, String.toList_append, List.append_assoc,
            List.append_assoc]
          rfl
      | false =>
          rw [holdsName_append (piece.ne_nameStart hpiece hnamed), ih hrest, Bool.false_or]

/-! ## Marks in any text -/

theorem holdsName_append_left (before : List Char) {chars : List Char}
    (h : holdsName chars = true) : holdsName (before ++ chars) = true := by
  induction before with
  | nil => exact h
  | cons c before ih =>
      rw [List.cons_append, holdsName.eq_def]
      split
      case h_1 heq => cases heq
      case h_2 => rfl
      case h_3 heq => rwa [← (List.cons.inj heq).2]

theorem holdsName_append_right {chars : List Char} (h : holdsName chars = true)
    (after : List Char) : holdsName (chars ++ after) = true := by
  fun_induction holdsName chars with
  | case1 => exact absurd h Bool.false_ne_true
  | case2 => rfl
  | case3 c rest _ ih => exact holdsName_append_left [c] (ih h)

theorem holdsName_cons {c : Char} {rest : List Char}
    (h : ∀ tail, c = '\x05' → rest ≠ '\x06' :: tail) : holdsName (c :: rest) = holdsName rest := by
  rw [holdsName.eq_def]
  split
  case h_1 heq => cases heq
  case h_2 tail heq =>
    obtain ⟨hc, hrest⟩ := List.cons.inj heq
    exact absurd hrest (h tail hc)
  case h_3 heq => rw [(List.cons.inj heq).2]

theorem holdsName_eq_false {chars : List Char} (h : ∀ c ∈ chars, c ≠ '\x06') :
    holdsName chars = false := by
  induction chars with
  | nil => rfl
  | cons c rest ih =>
      rw [holdsName_cons]
      · exact ih fun other hother => h other (List.mem_cons_of_mem _ hother)
      · rintro tail - rfl
        exact h '\x06' (by simp) rfl

/-- A text without the character with which the start of a name ends cannot finish
one. -/
theorem holdsName_append_of_ne {rest : List Char} (h : ∀ c ∈ rest, c ≠ '\x06')
    (chars : List Char) : holdsName (chars ++ rest) = holdsName chars := by
  induction chars with
  | nil => exact holdsName_eq_false h
  | cons c chars ih =>
      cases hname : holdsName (c :: chars) with
      | true => exact holdsName_append_right hname rest
      | false =>
          -- the start of a name would have to end in `rest`
          have hchars : ∀ tail, c = '\x05' → chars ≠ '\x06' :: tail := by
            rintro tail rfl rfl
            cases hname
          rw [holdsName_cons hchars] at hname
          rw [List.cons_append, holdsName_cons, ih, hname]
          intro tail hc htail
          cases chars with
          | nil =>
              rw [List.nil_append] at htail
              exact h '\x06' (htail ▸ List.mem_cons_self ..) rfl
          | cons next more => exact hchars more hc (by rw [(List.cons.inj htail).1])

theorem splitSlots_append_ne_nil (before : List Char) {chars : List Char}
    (h : (splitSlots chars).2 ≠ []) : (splitSlots (before ++ chars)).2 ≠ [] := by
  induction before with
  | nil => exact h
  | cons c before ih =>
      rw [List.cons_append, splitSlots.eq_def]
      split
      case h_1 heq => cases heq
      case h_2 => exact List.cons_ne_nil _ _
      case h_3 heq => rwa [← (List.cons.inj heq).2]

/-- The mark of an unnamed place is counted, whatever stands around it. -/
theorem countSlots_encode_pos {markup : Markup} (h : Piece.slot ∈ markup) :
    0 < countSlots markup.encode := by
  obtain ⟨before, after, rfl⟩ := List.append_of_mem h
  rw [countSlots, Markup.encode_append, Markup.encode_cons, String.toList_append,
    String.toList_append]
  exact List.length_pos_iff.mpr
    (splitSlots_append_ne_nil _ (by rw [Piece.encode, splitSlots_mark]; exact List.cons_ne_nil _ _))

/-- The start of a name is found, whatever stands around it. -/
theorem hasNames_encode_of_mem {markup : Markup} {piece : Piece} (h : piece ∈ markup)
    (hpiece : hasNames piece.encode = true) : hasNames markup.encode = true := by
  obtain ⟨before, after, rfl⟩ := List.append_of_mem h
  rw [hasNames, Markup.encode_append, Markup.encode_cons, String.toList_append,
    String.toList_append]
  exact holdsName_append_left _ (holdsName_append_right hpiece _)

end SqlText
