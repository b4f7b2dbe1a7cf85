import SqlText.Proofs.Statement.Arrays
import SqlText.Proofs.Text.Words

/-!
# Reading predicates back

A predicate is a clause over columns with plain names, integers, strings without a single
quote and unnamed parameters (`Clause.IsPredicate`).  Its text can be read in one way
only: two predicates with one text have the same operators, grouping and operands, and
differ at most in the tables that their columns belong to
(`Clause.IsPredicate.eq_of_append`).

The text of a predicate is read from the left.  The first character of an operand tells
what it is (`Lead`); a name or a number ends at a stop, a string at its quote, and a
nested clause where the clause in it does.  Then comes an operator, and the operator
tells what stands on its right.  `AND` also stands within ranges, but only behind the
first of two elements that hold no operators.
-/

namespace SqlText

/-! ## Predicates -/

/-- Operands that are no clauses: columns with plain names, integers, strings without a
single quote, and unnamed parameters. -/
inductive Operand.IsLeaf : Operand → Prop
  | column {column : Column} (hname : Text.isLowerName column.name = true) :
      IsLeaf (.column column)
  | int (number : Int) : IsLeaf (.value (.int number))
  | string {content : String} (hquote : '\x27' ∉ content.toList) :
      IsLeaf (.value (.string content))
  | parameter : IsLeaf (.parameter .unnamed)

/-- The elements of an array are integers, strings or parameters of this kind. -/
def Elements.AreLeaves (elements : Elements) : Prop :=
  ∀ operand ∈ elements.operands, operand.IsLeaf

mutual

/-- Operands of predicates. -/
inductive Operand.IsTerm : Operand → Prop
  | leaf {operand : Operand} (h : operand.IsLeaf) : operand.IsTerm
  | clause {clause : Clause} (h : clause.IsPredicate) : Operand.IsTerm (.clause clause)

/-- Clauses over such operands. -/
inductive Clause.IsPredicate : Clause → Prop
  | intro {condition : Condition} {left : Operand} {right? : Option Operand}
      (hleft : left.IsTerm) (hright : FitsRight condition.form right?) :
      Clause.IsPredicate ⟨condition, some left, right?⟩

/-- What stands on the right of an operator of the given form. -/
inductive FitsRight : Condition.Form → Option Operand → Prop
  | after : FitsRight .after none
  | binary {right : Operand} (h : right.IsTerm) : FitsRight .binary (some right)
  | range {elements : Elements} (hlength : elements.length = 2) (h : elements.AreLeaves) :
      FitsRight .range (some (.array elements))
  | member {whenEmpty : String} {elements : Elements} (hlength : elements.length ≠ 0)
      (h : elements.AreLeaves) : FitsRight (.membership whenEmpty) (some (.array elements))

end

mutual

/-- An operand without the tables that its columns belong to. -/
def Operand.bare : Operand → Operand
  | .clause clause => .clause clause.bare
  | .column column => .column ⟨"", column.name⟩
  | operand => operand

/-- A clause without the tables that its columns belong to. -/
def Clause.bare : Clause → Clause
  | ⟨condition, left?, right?⟩ => ⟨condition, bareOperand? left?, bareOperand? right?⟩

/-- The same for an operand that may be missing. -/
def bareOperand? : Option Operand → Option Operand
  | none => none
  | some operand => some operand.bare

end

/-! ## Their texts -/

/-- The characters of an operand that is no clause. -/
def Operand.leafChars : Operand → List Char
  | .column given => given.name.toList
  | .value given => given.literal.toList
  | .parameter _ => slotMark.toList
  | _ => []

theorem Operand.leafChars_string (content : String) :
    leafChars (.value (.string content)) = '\x27' :: (content.toList ++ ['\x27']) := by
  show ("'" ++ content ++ "'").toList = _
  rw [String.toList_append, String.toList_append]
  rfl

/-- The characters of operands behind another one in a list. -/
def listedBehind : List Operand → List Char
  | [] => []
  | operand :: rest => ',' :: ' ' :: (operand.leafChars ++ listedBehind rest)

/-- The characters of the elements of an array on the right of an operator. -/
def elementsChars : Condition.Form → List Operand → List Char
  | .range, [low, high] => low.leafChars ++ (" AND ".toList ++ high.leafChars)
  | .membership _, first :: rest => '(' :: (first.leafChars ++ (listedBehind rest ++ [')']))
  | _, _ => []

mutual

/-- The characters of an operand. -/
def Operand.chars : Operand → List Char
  | .clause clause => '(' :: (clause.chars ++ [')'])
  | operand => operand.leafChars

/-- The characters of a clause. -/
def Clause.chars : Clause → List Char
  | ⟨condition, left?, right?⟩ =>
      leftChars left? ++ ' ' :: (condition.text.toList ++ rightChars condition.form right?)

/-- The characters of a left operand. -/
def leftChars : Option Operand → List Char
  | none => []
  | some operand => operand.chars

/-- The characters on the right of an operator. -/
def rightChars (form : Condition.Form) : Option Operand → List Char
  | none => []
  | some (.array elements) => ' ' :: elementsChars form elements.operands
  | some operand => ' ' :: operand.chars

end

/-! ### Texts in a dialect -/

namespace Layout

variable {dialect : Dialect}

/-- The characters of a layout before its parameters are numbered. -/
def chars (dialect : Dialect) (layout : Layout) : List Char :=
  (layout.markup dialect).encode.toList

@[simp] theorem chars_fixed (text : String) : (fixed text).chars dialect = text.toList := by
  simp [chars, Markup.text, Piece.encode]

@[simp] theorem chars_append (first second : Layout) :
    (first ++ second : Layout).chars dialect = first.chars dialect ++ second.chars dialect := by
  simp [chars]

end Layout

section Texts

variable {dialect : Dialect} {layout : Layout}

theorem Dialect.identifier_of_isLowerName {name : String} (h : Text.isLowerName name = true) :
    dialect.identifier name = name := by
  have hspace : name.toList.contains ' ' = false := by
    rw [List.contains_eq_mem, decide_eq_false_iff_not]
    intro hmem
    exact absurd (Text.isOfWord_of_isLowerName h ' ' hmem) (by decide)
  unfold identifier
  rw [hspace]
  simp

/-- The text of an operand without clauses is the same in all dialects. -/
theorem Operand.IsLeaf.chars_eq {operand : Operand} (h : operand.IsLeaf)
    (hreads : Reads dialect (.entry (.operand operand)) layout) :
    layout.chars dialect = operand.leafChars := by
  cases h with
  | @column column hname =>
      cases hreads
      rw [Layout.chars_fixed, Column.text, Dialect.identifier_of_isLowerName hname]
      rfl
  | int number | string hquote =>
      cases hreads
      rw [Layout.chars_fixed]
      rfl
  | parameter =>
      cases hreads
      rfl

theorem chars_of_reads_entries {first : Operand} {rest : List Operand}
    (hleaves : ∀ operand ∈ first :: rest, operand.IsLeaf)
    (hreads : Reads dialect (.entries (entriesOf (first :: rest))) layout) :
    layout.chars dialect = first.leafChars ++ listedBehind rest := by
  induction rest generalizing first layout with
  | nil =>
      cases hreads with
      | one hfirst =>
          rw [(hleaves first (List.mem_cons_self ..)).chars_eq hfirst, listedBehind,
            List.append_nil]
  | cons next rest ih =>
      cases hreads with
      | more hfirst hrest =>
          rw [Layout.chars_append, Layout.chars_append, Layout.chars_fixed,
            (hleaves first (List.mem_cons_self ..)).chars_eq hfirst,
            ih (fun operand hmem => hleaves operand (List.mem_cons_of_mem _ hmem)) hrest,
            listedBehind, List.append_assoc]
          rfl

theorem rightChars_of_isTerm {right : Operand} (h : right.IsTerm) (form : Condition.Form) :
    rightChars form (some right) = ' ' :: right.chars := by
  cases h with
  | leaf h => cases h <;> rfl
  | clause h => rfl

mutual

theorem Operand.IsTerm.chars_eq : ∀ {operand : Operand} {layout : Layout}, operand.IsTerm →
    Reads dialect (.entry (.operand operand)) layout → layout.chars dialect = operand.chars
  | _, _, .leaf h, hreads => by
      rw [h.chars_eq hreads]
      cases h <;> rfl
  | _, _, .clause h, .nested hinner => by
      rw [Layout.chars_append, Layout.chars_append, h.chars_eq hinner, Operand.chars]
      simp

theorem Clause.IsPredicate.chars_eq : ∀ {clause : Clause} {layout : Layout}, clause.IsPredicate →
    Reads dialect (.clause clause) layout → layout.chars dialect = clause.chars
  | _, _, .intro hleft hright, hreads => by
      obtain ⟨subject, hsubject, hlayout⟩ := hright.chars_eq rfl hreads
      rw [hlayout, hleft.chars_eq hsubject, Clause.chars, leftChars]

/-- The text on the right of an operator follows that of the left operand. -/
theorem FitsRight.chars_eq : ∀ {form : Condition.Form} {condition : Condition} {left : Operand}
    {right? : Option Operand} {layout : Layout}, FitsRight form right? → condition.form = form →
    Reads dialect (.clause ⟨condition, some left, right?⟩) layout →
    ∃ subject, Reads dialect (.entry (.operand left)) subject ∧ layout.chars dialect =
      subject.chars dialect ++ ' ' :: (condition.text.toList ++ rightChars form right?)
  | _, _, _, _, _, .after, hform, hreads => by
      cases hreads with
      | after _ hsubject => exact ⟨_, hsubject, by simp [rightChars]⟩
  | _, _, _, _, _, .binary h, hform, hreads => by
      cases hreads with
      | binary _ hsubject hobject =>
          refine ⟨_, hsubject, ?_⟩
          rw [rightChars_of_isTerm h, ← h.chars_eq hobject]
          simp
      | range hform' | memberOfQuery hform' | memberOfNothing hform' | memberOfList hform' =>
          rw [hform] at hform'
          cases hform'
  | _, _, _, _, _, .range hlength h, hform, hreads => by
      cases hreads with
      | range _ hoperands hsubject hlow hhigh =>
          refine ⟨_, hsubject, ?_⟩
          have hlow := (h _ (by simp [hoperands])).chars_eq hlow
          have hhigh := (h _ (by simp [hoperands])).chars_eq hhigh
          simp [rightChars, hoperands, elementsChars, hlow, hhigh]
      | binary hform' | memberOfNothing hform' | memberOfList hform' =>
          rw [hform] at hform'
          cases hform'
  | _, _, _, _, _, .member hlength h, hform, hreads => by
      cases hreads with
      | @memberOfList _ _ _ elements _ _ _ hoperands hsubject hitems =>
          refine ⟨_, hsubject, ?_⟩
          obtain ⟨first, rest, hcons⟩ := List.exists_cons_of_ne_nil hoperands
          rw [hcons] at hitems
          have hitems := chars_of_reads_entries (hcons ▸ h) hitems
          simp [rightChars, hcons, elementsChars, hitems]
      | memberOfNothing _ hoperands => exact absurd hoperands (Elements.operands_ne_nil hlength)
      | binary hform' | range hform' =>
          rw [hform] at hform'
          cases hform'

end

end Texts

/-! ## Reading from the left -/

/-- What an operand of a predicate is. -/
inductive Lead
  | column
  | int
  | string
  | parameter
  | clause

/-- What the first character of an operand tells about it. -/
def Lead.ofChar (c : Char) : Lead :=
  if c.isLower then column
  else if c = '\x27' then string
  else if c = '\x01' then parameter
  else if c = '(' then clause
  else int

/-- What an operand is. -/
def Operand.lead : Operand → Lead
  | .column _ => .column
  | .value (.string _) => .string
  | .value _ => .int
  | .parameter _ => .parameter
  | _ => .clause

theorem Lead.ofChar_of_isDigit {c : Char} (h : c.isDigit = true) : ofChar c = int := by
  have hlower : c.isLower = false := by
    -- digits come before letters
    refine Bool.eq_false_iff.mpr fun hletter => ?_
    have hhigh : c.val ≤ '9'.val := of_decide_eq_true (Bool.and_eq_true_iff.mp h).2
    have hlow : 'a'.val ≤ c.val := of_decide_eq_true (Bool.and_eq_true_iff.mp hletter).1
    exact absurd (UInt32.le_trans hlow hhigh) (by decide)
  have hne : ∀ {other : Char}, other.isDigit = false → c ≠ other := by
    rintro other hother rfl
    rw [h] at hother
    cases hother
  unfold ofChar
  rw [hlower, if_neg Bool.false_ne_true, if_neg (hne rfl), if_neg (hne rfl), if_neg (hne rfl)]

theorem Operand.IsLeaf.lead_eq {operand : Operand} (h : operand.IsLeaf) :
    ∃ first rest, operand.leafChars = first :: rest ∧ Lead.ofChar first = operand.lead := by
  cases h with
  | column hname =>
      obtain ⟨first, rest, hchars, hfirst⟩ := Text.exists_of_isLowerName hname
      exact ⟨first, rest, hchars, if_pos hfirst⟩
  | int number =>
      obtain ⟨first, rest, hchars, hfirst | rfl, -⟩ := Text.exists_toString_int number
      · exact ⟨first, rest, hchars, Lead.ofChar_of_isDigit hfirst⟩
      · exact ⟨_, rest, hchars, rfl⟩
  | @string content hquote => exact ⟨'\x27', _, leafChars_string content, rfl⟩
  | parameter => exact ⟨'\x01', _, rfl, rfl⟩

theorem Operand.IsLeaf.chars_eq_leafChars {operand : Operand} (h : operand.IsLeaf) :
    operand.chars = operand.leafChars := by
  cases h <;> rfl

theorem Operand.IsTerm.lead_eq {operand : Operand} (h : operand.IsTerm) :
    ∃ first rest, operand.chars = first :: rest ∧ Lead.ofChar first = operand.lead := by
  cases h with
  | leaf h =>
      rw [h.chars_eq_leafChars]
      exact h.lead_eq
  | clause h => exact ⟨'(', _, rfl, rfl⟩

theorem stops_listedBehind (operands : List Operand) (rest : List Char) :
    Text.Stops (listedBehind operands ++ ')' :: rest) := by
  cases operands <;> exact Text.stops_cons rfl

section Unique

variable {rest others : List Char}

/-- Operands with one text are of one sort. -/
theorem Operand.IsTerm.lead_eq_of_append {operand other : Operand} (h : operand.IsTerm)
    (hother : other.IsTerm) (heq : operand.chars ++ rest = other.chars ++ others) :
    operand.lead = other.lead := by
  obtain ⟨first, more, hchars, hlead⟩ := h.lead_eq
  obtain ⟨first', more', hchars', hlead'⟩ := hother.lead_eq
  rw [hchars, hchars'] at heq
  rw [← hlead, ← hlead', (List.cons.inj heq).1]

/-- An operand without clauses is determined by a text that begins with it. -/
theorem Operand.IsLeaf.eq_of_append {operand other : Operand} (h : operand.IsLeaf)
    (hother : other.IsLeaf) (hrest : Text.Stops rest) (hothers : Text.Stops others)
    (heq : operand.leafChars ++ rest = other.leafChars ++ others) :
    operand.bare = other.bare ∧ rest = others := by
  have hlead : operand.lead = other.lead := by
    rw [← h.chars_eq_leafChars, ← hother.chars_eq_leafChars] at heq
    exact IsTerm.lead_eq_of_append (.leaf h) (.leaf hother) heq
  cases h with
  | column hname =>
      cases hother with
      | column hname' =>
          obtain ⟨hnames, rfl⟩ := Text.eq_of_append_word (Text.isOfWord_of_isLowerName hname)
            (Text.isOfWord_of_isLowerName hname') hrest hothers heq
          exact ⟨by rw [bare, bare, String.toList_inj.mp hnames], rfl⟩
      | int | string | parameter => cases hlead
  | int number =>
      cases hother with
      | int number' =>
          obtain ⟨hnumbers, rfl⟩ := Text.eq_of_append_word (Text.isOfWord_toString_int number)
            (Text.isOfWord_toString_int number') hrest hothers heq
          exact ⟨by rw [Text.toString_int_inj hnumbers], rfl⟩
      | column | string | parameter => cases hlead
  | @string content hquote =>
      cases hother with
      | @string content' hquote' =>
          -- the content ends at the first quote behind the opening one
          have ne_quote : ∀ {text : String}, '\x27' ∉ text.toList →
              ∀ c ∈ text.toList, (c != '\x27') = true := by
            intro text htext c hc
            exact bne_iff_ne.mpr fun heq => htext (heq ▸ hc)
          rw [leafChars_string, leafChars_string, List.cons_append, List.cons_append,
            List.append_assoc, List.append_assoc] at heq
          obtain ⟨hcontents, hbehind⟩ := Text.eq_of_append_class (ne_quote hquote)
            (ne_quote hquote') (by simp) (by simp) (List.cons.inj heq).2
          exact ⟨by rw [String.toList_inj.mp hcontents], (List.cons.inj hbehind).2⟩
      | column | int | parameter => cases hlead
  | parameter =>
      cases hother with
      | parameter => exact ⟨rfl, List.append_cancel_left heq⟩
      | column | int | string => cases hlead

/-- So are operands in a list, which ends at a parenthesis. -/
theorem eq_of_append_listedBehind {operands given : List Operand}
    (hoperands : ∀ operand ∈ operands, operand.IsLeaf) (hgiven : ∀ operand ∈ given, operand.IsLeaf)
    (heq : listedBehind operands ++ ')' :: rest = listedBehind given ++ ')' :: others) :
    operands.map Operand.bare = given.map Operand.bare ∧ rest = others := by
  induction operands generalizing given with
  | nil =>
      cases given with
      | nil => exact ⟨rfl, (List.cons.inj heq).2⟩
      | cons other more => cases heq
  | cons operand behind ih =>
      cases given with
      | nil => cases heq
      | cons other more =>
          simp only [listedBehind, List.cons_append, List.append_assoc, List.cons.injEq,
            true_and] at heq
          obtain ⟨hfirst, hbehind⟩ :=
            (hoperands operand (List.mem_cons_self ..)).eq_of_append
              (hgiven other (List.mem_cons_self ..)) (stops_listedBehind _ _)
              (stops_listedBehind _ _) heq
          obtain ⟨hmore, hrest⟩ :=
            ih (fun operand h => hoperands operand (List.mem_cons_of_mem _ h))
              (fun operand h => hgiven operand (List.mem_cons_of_mem _ h)) hbehind
          exact ⟨by rw [List.map_cons, List.map_cons, hfirst, hmore], hrest⟩

theorem FitsRight.stops {form : Condition.Form} {right? : Option Operand}
    (h : FitsRight form right?) (hrest : Text.Stops rest) :
    Text.Stops (rightChars form right? ++ rest) := by
  cases h with
  | after => exact hrest
  | binary h =>
      rw [rightChars_of_isTerm h]
      exact Text.stops_cons rfl
  | range | member => exact Text.stops_cons rfl

/-- The two elements of a range have `AND` between them. -/
theorem eq_of_append_range {elements given : Elements} (hlength : elements.length = 2)
    (hlength' : given.length = 2) (h : elements.AreLeaves) (h' : given.AreLeaves)
    (hrest : Text.Stops rest) (hothers : Text.Stops others)
    (heq : elementsChars .range elements.operands ++ rest =
      elementsChars .range given.operands ++ others) :
    elements.operands.map Operand.bare = given.operands.map Operand.bare ∧ rest = others := by
  unfold Elements.AreLeaves at h h'
  obtain ⟨low, high, hoperands⟩ := Elements.exists_operands_pair hlength
  obtain ⟨low', high', hoperands'⟩ := Elements.exists_operands_pair hlength'
  rw [hoperands] at h heq ⊢
  rw [hoperands'] at h' heq ⊢
  simp only [elementsChars, List.append_assoc] at heq
  have stops_and : ∀ behind : List Char, Text.Stops (" AND ".toList ++ behind) :=
    fun _ => Text.stops_cons rfl
  obtain ⟨hlow, hbehind⟩ := (h low (by simp)).eq_of_append (h' low' (by simp))
    (stops_and _) (stops_and _) heq
  obtain ⟨hhigh, hrest⟩ := (h high (by simp)).eq_of_append (h' high' (by simp)) hrest hothers
    (List.append_cancel_left hbehind)
  exact ⟨by simp [hlow, hhigh], hrest⟩

theorem eq_of_append_member {elements given : Elements} {whenEmpty : String}
    (hlength : elements.length ≠ 0) (hlength' : given.length ≠ 0) (h : elements.AreLeaves)
    (h' : given.AreLeaves)
    (heq : elementsChars (.membership whenEmpty) elements.operands ++ rest =
      elementsChars (.membership whenEmpty) given.operands ++ others) :
    elements.operands.map Operand.bare = given.operands.map Operand.bare ∧ rest = others := by
  unfold Elements.AreLeaves at h h'
  obtain ⟨first, more, hoperands⟩ :=
    List.exists_cons_of_ne_nil (Elements.operands_ne_nil hlength)
  obtain ⟨first', more', hoperands'⟩ :=
    List.exists_cons_of_ne_nil (Elements.operands_ne_nil hlength')
  rw [hoperands] at h heq ⊢
  rw [hoperands'] at h' heq ⊢
  simp only [elementsChars, List.cons_append, List.append_assoc, List.nil_append,
    List.cons.injEq, true_and] at heq
  obtain ⟨hfirst, hbehind⟩ := (h first (by simp)).eq_of_append (h' first' (by simp))
    (stops_listedBehind _ _) (stops_listedBehind _ _) heq
  obtain ⟨hmore, hrest⟩ := eq_of_append_listedBehind
    (fun operand hmem => h operand (List.mem_cons_of_mem _ hmem))
    (fun operand hmem => h' operand (List.mem_cons_of_mem _ hmem)) hbehind
  exact ⟨by rw [List.map_cons, List.map_cons, hfirst, hmore], hrest⟩

/-- There are no columns among the elements of arrays. -/
theorem Elements.map_bare_operands (elements : Elements) :
    elements.operands.map Operand.bare = elements.operands := by
  cases elements <;> simp [operands, Operand.bare]

/-- Arrays that are not empty are told apart by their elements. -/
theorem Elements.eq_of_operands_eq {elements given : Elements} (hne : elements.operands ≠ [])
    (h : elements.operands = given.operands) : elements = given := by
  cases elements <;> cases given <;> simp only [operands] at h hne
  case strings.strings | ints.ints | floats.floats | doubles.doubles | bools.bools | dates.dates |
      parameters.parameters =>
    exact congrArg _ ((List.map_inj_right fun _ _ heq => by simpa using heq).mp h)
  all_goals
    -- arrays of two types: not even their first elements are the same
    exfalso
    obtain ⟨first, rest, hcons⟩ := List.exists_cons_of_ne_nil hne
    have hfirst : first ∈ first :: rest := List.mem_cons_self ..
    have hmem := hfirst
    rw [← hcons, List.mem_map] at hfirst
    rw [← hcons, h, List.mem_map] at hmem
    obtain ⟨_, -, rfl⟩ := hfirst
    obtain ⟨_, -, heq⟩ := hmem
    cases heq

theorem bareOperand?_array_eq {elements given : Elements} (hlength : elements.length ≠ 0)
    (h : elements.operands.map Operand.bare = given.operands.map Operand.bare) :
    bareOperand? (some (.array elements)) = bareOperand? (some (.array given)) := by
  rw [Elements.map_bare_operands, Elements.map_bare_operands] at h
  rw [Elements.eq_of_operands_eq (Elements.operands_ne_nil hlength) h]

theorem Operand.IsLeaf.lead_ne_clause {operand : Operand} (h : operand.IsLeaf) :
    operand.lead ≠ .clause := by
  cases h <;> exact fun h => nomatch h

mutual

/-- An operand is determined by a text that begins with it and goes on with a stop. -/
theorem Operand.IsTerm.eq_of_append : ∀ {operand other : Operand} {rest others : List Char},
    operand.IsTerm → other.IsTerm → Text.Stops rest → Text.Stops others →
    operand.chars ++ rest = other.chars ++ others → operand.bare = other.bare ∧ rest = others
  | _, _, _, _, .leaf h, .leaf hother, hrest, hothers, heq => by
      rw [h.chars_eq_leafChars, hother.chars_eq_leafChars] at heq
      exact h.eq_of_append hother hrest hothers heq
  | _, _, _, _, .leaf h, .clause hother, _, _, heq =>
      absurd (Operand.IsTerm.lead_eq_of_append (.leaf h) (.clause hother) heq)
        h.lead_ne_clause
  | _, _, _, _, .clause h, .leaf hother, _, _, heq =>
      absurd (Operand.IsTerm.lead_eq_of_append (.leaf hother) (.clause h) heq.symm)
        hother.lead_ne_clause
  | _, _, _, _, .clause h, .clause hother, hrest, hothers, heq => by
      simp only [Operand.chars, List.cons_append, List.append_assoc, List.nil_append,
        List.cons.injEq, true_and] at heq
      obtain ⟨hclause, hbehind⟩ :=
        h.eq_of_append hother (Text.stops_cons rfl) (Text.stops_cons rfl) heq
      exact ⟨by rw [Operand.bare, Operand.bare, hclause], (List.cons.inj hbehind).2⟩

/-- So is a clause: the left operand ends at the space before the operator, and what is on
the right depends on the operator. -/
theorem Clause.IsPredicate.eq_of_append : ∀ {clause other : Clause} {rest others : List Char},
    clause.IsPredicate → other.IsPredicate → Text.Stops rest → Text.Stops others →
    clause.chars ++ rest = other.chars ++ others → clause.bare = other.bare ∧ rest = others
  | ⟨condition, _, _⟩, ⟨condition', _, _⟩, _, _, .intro hleft hright, .intro hleft' hright',
      hrest, hothers, heq => by
      simp only [Clause.chars, leftChars, List.cons_append, List.append_assoc] at heq
      obtain ⟨hsubject, hbehind⟩ :=
        hleft.eq_of_append hleft' (Text.stops_cons rfl) (Text.stops_cons rfl) heq
      obtain ⟨hcondition, hargument⟩ := Condition.eq_of_append_text (hright.stops hrest)
        (hright'.stops hothers) (List.cons.inj hbehind).2
      subst hcondition
      obtain ⟨hobject, hend⟩ := hright.eq_of_append hright' hrest hothers hargument
      exact ⟨by rw [Clause.bare, Clause.bare, bareOperand?, bareOperand?, hsubject, hobject], hend⟩

theorem FitsRight.eq_of_append : ∀ {form : Condition.Form} {right? other? : Option Operand}
    {rest others : List Char}, FitsRight form right? → FitsRight form other? →
    Text.Stops rest → Text.Stops others →
    rightChars form right? ++ rest = rightChars form other? ++ others →
    bareOperand? right? = bareOperand? other? ∧ rest = others
  | _, _, _, _, _, .after, .after, _, _, heq => ⟨rfl, heq⟩
  | _, _, _, _, _, .binary h, .binary hother, hrest, hothers, heq => by
      rw [rightChars_of_isTerm h, rightChars_of_isTerm hother] at heq
      obtain ⟨hright, hend⟩ := h.eq_of_append hother hrest hothers (List.cons.inj heq).2
      exact ⟨by rw [bareOperand?, bareOperand?, hright], hend⟩
  | _, _, _, _, _, .range hlength h, .range hlength' hother, hrest, hothers, heq => by
      obtain ⟨helements, hend⟩ :=
        eq_of_append_range hlength hlength' h hother hrest hothers (List.cons.inj heq).2
      exact ⟨bareOperand?_array_eq (by omega) helements, hend⟩
  | _, _, _, _, _, .member hlength h, .member hlength' hother, _, _, heq => by
      obtain ⟨helements, hend⟩ :=
        eq_of_append_member hlength hlength' h hother (List.cons.inj heq).2
      exact ⟨bareOperand?_array_eq hlength helements, hend⟩

end

end Unique

/-! ## Texts without tables -/

mutual

/-- The text of an operand does not show the tables of its columns. -/
theorem Operand.chars_bare : ∀ operand : Operand, operand.bare.chars = operand.chars
  | .clause clause => by rw [Operand.bare, Operand.chars, Operand.chars, clause.chars_bare]
  | .column _ | .value _ | .array _ | .expression _ | .parameter _ | .query _ | .any _ | .all _ =>
      rfl

theorem Clause.chars_bare : ∀ clause : Clause, clause.bare.chars = clause.chars
  | ⟨condition, left?, right?⟩ => by
      rw [Clause.bare, Clause.chars, Clause.chars, leftChars_bare left?,
        rightChars_bare condition.form right?]

theorem leftChars_bare : ∀ operand? : Option Operand,
    leftChars (bareOperand? operand?) = leftChars operand?
  | none => rfl
  | some operand => by rw [bareOperand?, leftChars, leftChars, operand.chars_bare]

theorem rightChars_bare (form : Condition.Form) : ∀ operand? : Option Operand,
    rightChars form (bareOperand? operand?) = rightChars form operand?
  | none => rfl
  | some (.clause clause) => congrArg (' ' :: ·) (Operand.chars_bare (.clause clause))
  | some (.column _) | some (.value _) | some (.array _) | some (.expression _)
  | some (.parameter _) | some (.query _) | some (.any _) | some (.all _) => rfl

end

/-- Two predicates have the same text in a dialect exactly if they are the same up to the
tables of their columns. -/
theorem Clause.encode_eq_iff_bare_eq {dialect : Dialect} {clause other : Clause}
    {markup written : Markup} (hclause : clause.IsPredicate) (hother : other.IsPredicate)
    (hmarkup : clause.render dialect = .ok markup)
    (hwritten : other.render dialect = .ok written) :
    markup.encode = written.encode ↔ clause.bare = other.bare := by
  obtain ⟨layout, hreads, rfl⟩ := clause.hasLayout hmarkup
  obtain ⟨given, hreads', rfl⟩ := other.hasLayout hwritten
  have hchars : (layout.markup dialect).encode.toList = clause.chars := hclause.chars_eq hreads
  have hchars' : (given.markup dialect).encode.toList = other.chars := hother.chars_eq hreads'
  rw [← String.toList_inj, hchars, hchars']
  constructor
  · intro heq
    have happend : clause.chars ++ [] = other.chars ++ [] := by rw [heq]
    exact (hclause.eq_of_append hother Text.stops_nil Text.stops_nil happend).1
  · intro hbare
    rw [← clause.chars_bare, ← other.chars_bare, hbare]

/-- A range and two tests, of which the second is taken together with what stands on its
left or with what stands on its right. -/
def Clause.threeTests (table : String) (fromLeft : Bool) : Clause :=
  let range : Clause := ⟨.between, some (.column ⟨table, "age"⟩), some (.array (.ints [-1, 18]))⟩
  let pattern := binary (.column ⟨table, "note"⟩) .notLike (.value (.string "a) OR b IN ("))
  let test := binary (.column ⟨table, "rank"⟩) .lessOrEqual (.parameter .unnamed)
  if fromLeft then (range.or pattern).and test else range.or (pattern.and test)

theorem Clause.isPredicate_threeTests (table : String) (fromLeft : Bool) :
    (threeTests table fromLeft).IsPredicate := by
  have hcolumn : ∀ name, Text.isLowerName name = true →
      Operand.IsTerm (.column ⟨table, name⟩) :=
    fun _ hname => .leaf (.column hname)
  have hrange : IsPredicate
      ⟨.between, some (.column ⟨table, "age"⟩), some (.array (.ints [-1, 18]))⟩ :=
    .intro (hcolumn "age" (by decide)) (.range rfl (by
      intro operand hmem
      obtain ⟨number, -, rfl⟩ := List.mem_map.mp hmem
      exact .int number))
  have hpattern : (binary (.column ⟨table, "note"⟩) .notLike
      (.value (.string "a) OR b IN ("))).IsPredicate :=
    .intro (hcolumn "note" (by decide)) (.binary (.leaf (.string (by decide))))
  have htest : (binary (.column ⟨table, "rank"⟩) .lessOrEqual
      (.parameter .unnamed)).IsPredicate :=
    .intro (hcolumn "rank" (by decide)) (.binary (.leaf .parameter))
  cases fromLeft with
  | true =>
      exact .intro (.clause (.intro (.clause hrange) (.binary (.clause hpattern))))
        (.binary (.clause htest))
  | false =>
      exact .intro (.clause hrange)
        (.binary (.clause (.intro (.clause hpattern) (.binary (.clause htest)))))

/-- The text shows how the tests are taken together and does not show their table. -/
theorem Clause.encode_eq_iff_bare_eq_threeTests :
    ∃ markup written grouped,
      (threeTests "users" true).render .postgres = .ok markup ∧
      (threeTests "orders" true).render .postgres = .ok written ∧
      (threeTests "users" false).render .postgres = .ok grouped ∧
      markup.encode = written.encode ∧ markup.encode ≠ grouped.encode := by
  have hmarkup : (threeTests "users" true).render .postgres = .ok _ := rfl
  have hwritten : (threeTests "orders" true).render .postgres = .ok _ := rfl
  have hgrouped : (threeTests "users" false).render .postgres = .ok _ := rfl
  have hpredicate := isPredicate_threeTests
  refine ⟨_, _, _, hmarkup, hwritten, hgrouped, ?_, ?_⟩
  · exact (encode_eq_iff_bare_eq (hpredicate _ _) (hpredicate _ _) hmarkup hwritten).mpr rfl
  · intro heq
    have hbare :=
      (encode_eq_iff_bare_eq (hpredicate _ _) (hpredicate _ _) hmarkup hgrouped).mp heq
    cases congrArg Clause.condition hbare

end SqlText
