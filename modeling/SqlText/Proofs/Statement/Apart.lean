import SqlText.Proofs.Dialect.Markers
import SqlText.Proofs.Statement.OnePass

/-!
# Placeholders of different parameters

A text with marks for both kinds of parameters is refused, but a dialect with a
marker for names has no marks for them.  There, both kinds may stand in one text,
and whether they can be told apart depends on the markers alone: an unnamed and a
named parameter never share a placeholder, unless the markers of the dialect
overlap.
-/

namespace SqlText

open Layout (fixed)

variable {dialect : Dialect} {layout : Layout}

/-- No placeholder of an unnamed parameter has the text of one of a named parameter. -/
def KeepsApart (tokens : List Token) : Prop :=
  ∀ numbered ∈ tokens, ∀ named ∈ tokens, ∀ name,
    numbered.parameter? = some .unnamed → named.parameter? = some (.named name) →
      numbered.text ≠ named.text

/-! ## Tokens of parameters -/

namespace Layout

/-- A token is fixed, or one of the placeholders of a parameter. -/
theorem mem_tokens {token : Token} {count : Nat} (h : token ∈ layout.tokens dialect count) :
    token.parameter? = none ∨
      (Parameter.unnamed ∈ layout.parameters ∧ ∃ position, 1 ≤ position ∧
        token = ⟨some .unnamed, dialect.placeholder position⟩) ∨
      ∃ name, Parameter.named name ∈ layout.parameters ∧
        token = ⟨some (.named name), ((Parameter.named name).markup dialect).encode⟩ := by
  induction layout generalizing count with
  | nil => cases h
  | cons fragment rest ih =>
      rcases fragment with text | ⟨_ | name⟩ <;> rcases List.mem_cons.mp h with rfl | hrest
      · exact Or.inl rfl
      · exact ih hrest
      · exact Or.inr (Or.inl ⟨List.mem_cons_self .., count + 1, by omega, rfl⟩)
      · rcases ih hrest with hfixed | ⟨hmem, hplace⟩ | ⟨name, hmem, hplace⟩
        · exact Or.inl hfixed
        · exact Or.inr (Or.inl ⟨List.mem_cons_of_mem _ hmem, hplace⟩)
        · exact Or.inr (Or.inr ⟨name, List.mem_cons_of_mem _ hmem, hplace⟩)
      · exact Or.inr (Or.inr ⟨name, List.mem_cons_self .., rfl⟩)
      · rcases ih hrest with hfixed | ⟨hmem, hplace⟩ | ⟨name, hmem, hplace⟩
        · exact Or.inl hfixed
        · exact Or.inr (Or.inl ⟨List.mem_cons_of_mem _ hmem, hplace⟩)
        · exact Or.inr (Or.inr ⟨name, List.mem_cons_of_mem _ hmem, hplace⟩)

/-- Every place up to the number of unnamed parameters has its placeholder. -/
theorem mem_tokens_of_unnamed {count position : Nat} (hlt : count < position)
    (hle : position ≤ count + layout.unnamed) :
    ⟨some .unnamed, dialect.placeholder position⟩ ∈ layout.tokens dialect count := by
  induction layout generalizing count with
  | nil =>
      rw [unnamed_nil] at hle
      omega
  | cons fragment rest ih =>
      rcases fragment with text | ⟨_ | name⟩
      · exact List.mem_cons_of_mem _ (ih hlt hle)
      · by_cases hposition : position = count + 1
        · subst hposition
          exact List.mem_cons_self ..
        · have hunnamed : unnamed (.parameter ⟨none⟩ :: rest) = unnamed rest + 1 := by
            simp [unnamed]
          exact List.mem_cons_of_mem _ (ih (by omega) (by omega))
      · have hunnamed : unnamed (.parameter ⟨some name⟩ :: rest) = unnamed rest := by
          simp [unnamed]
        exact List.mem_cons_of_mem _ (ih hlt (by omega))

theorem mem_tokens_of_named {name : String} (h : Parameter.named name ∈ layout.parameters)
    (count : Nat) :
    ⟨some (.named name), ((Parameter.named name).markup dialect).encode⟩ ∈
      layout.tokens dialect count := by
  induction layout generalizing count with
  | nil => cases h
  | cons fragment rest ih =>
      rcases fragment with text | ⟨_ | other⟩
      · exact List.mem_cons_of_mem _ (ih h count)
      · have hrest : Parameter.named name ∈ Layout.parameters rest := by
          simpa [Parameter.named] using h
        exact List.mem_cons_of_mem _ (ih hrest _)
      · rcases List.mem_cons.mp h with hname | hrest
        · obtain rfl : name = other := by simpa [Parameter.named] using hname
          exact List.mem_cons_self ..
        · exact List.mem_cons_of_mem _ (ih hrest _)

/-- What is written for a parameter is part of the markup. -/
theorem mem_markup {parameter : Parameter} (h : parameter ∈ layout.parameters) {piece : Piece}
    (hpiece : piece ∈ parameter.markup dialect) : piece ∈ layout.markup dialect := by
  induction layout with
  | nil => cases h
  | cons fragment rest ih =>
      rw [markup_cons]
      cases fragment with
      | fixed text => exact List.mem_append_right _ (ih h)
      | parameter other =>
          rcases List.mem_cons.mp h with rfl | hrest
          · exact List.mem_append_left _ hpiece
          · exact List.mem_append_right _ (ih hrest)

end Layout

/-! ## Markers that keep placeholders apart -/

theorem hasNames_named (name : String) : hasNames (Piece.named name).encode = true := by
  rw [Piece.encode, String.append_assoc, hasNames, String.toList_append]
  rfl

theorem hasNames_of_append {first second : String} (h : hasNames (first ++ second) = false) :
    hasNames first = false := by
  cases hfirst : hasNames first with
  | false => rfl
  | true =>
      rw [hasNames, String.toList_append, holdsName_append_right hfirst] at h
      exact absurd h (by decide)

theorem Statement.exists_reads_of_build_eq_ok {statement : Statement} {sql : String}
    (h : statement.build dialect = .ok sql) :
    ∃ layout, Reads dialect (.statement statement) layout := by
  rw [build_eq] at h
  obtain ⟨markup, hrender, -⟩ := bind_eq_ok.mp h
  obtain ⟨layout, hreads, -⟩ := render_eq_ok_iff.mp hrender
  exact ⟨layout, hreads⟩

/-- A text with an unnamed place and the start of a name is refused. -/
theorem Statement.hasNames_of_build_eq_ok {statement : Statement} {sql : String}
    (hreads : Reads dialect (.statement statement) layout)
    (h : statement.build dialect = .ok sql) (hunnamed : Parameter.unnamed ∈ layout.parameters)
    {piece : Piece} (hpiece : piece ∈ layout.markup dialect) :
    hasNames piece.encode = false := by
  cases hnames : hasNames piece.encode with
  | false => rfl
  | true =>
      have hslots : 0 < countSlots (layout.markup dialect).encode :=
        countSlots_encode_pos (layout.mem_markup hunnamed (List.mem_singleton_self _))
      have hmixed := hasNames_encode_of_mem hpiece hnames
      have hrender := render_eq_ok_iff.mpr ⟨layout, hreads, rfl⟩
      rw [build_eq, hrender, ok_bind, if_pos ⟨hslots, hmixed⟩] at h
      cases h

theorem Statement.keepsApart_of_build_eq_ok {statement : Statement} {sql : String}
    (hmarkers : ¬ dialect.Overlaps) (hreads : Reads dialect (.statement statement) layout)
    (h : statement.build dialect = .ok sql) (count : Nat) :
    KeepsApart (layout.tokens dialect count) := by
  intro numbered hnumbered named hnamed name hunnamed hname htext
  rcases Layout.mem_tokens hnumbered with hfixed | ⟨hmem, position, hposition, rfl⟩ | ⟨_, -, rfl⟩
  · rw [hfixed] at hunnamed
    cases hunnamed
  · rcases Layout.mem_tokens hnamed with hfixed | ⟨-, _, -, rfl⟩ | ⟨other, hother, rfl⟩
    · rw [hfixed] at hname
      cases hname
    · cases hname
    · obtain rfl : other = name := by simpa [Parameter.named] using hname
      have hpieces : ∀ piece ∈ (Parameter.named other).markup dialect,
          hasNames piece.encode = false := fun piece hpiece =>
        hasNames_of_build_eq_ok hreads h hmem (layout.mem_markup hother hpiece)
      obtain ⟨hne, hplain⟩ := (hreads.from_leaves _ hother).1 other rfl
      simp only [Parameter.named, Parameter.markup] at hpieces htext
      cases hmarker : dialect.text? .namedParameter with
      | none =>
          -- the mark of the name would have been refused
          rw [hmarker] at hpieces
          exact absurd (hpieces _ (List.mem_singleton_self _)) (by simp [hasNames_named])
      | some marker =>
          rw [hmarker] at hpieces htext
          refine hmarkers (Dialect.overlaps_iff.mpr
            ⟨marker, other, position, hmarker, ?_, hposition, hne, hplain, ?_⟩)
          · exact hasNames_of_append (hpieces _ (List.mem_singleton_self _))
          · rw [htext]
            simp [Markup.text, Piece.encode]
  · cases hunnamed

/-! ## Markers that do not -/

/-- Unnamed parameters and a named one after them. -/
def mixing (name : String) : Nat → List Operand
  | 0 => [.parameter (.named name)]
  | count + 1 => .parameter .unnamed :: mixing name count

/-- What these parameters read as. -/
def mixingLayout (name : String) : Nat → Layout
  | 0 => [.parameter (.named name)]
  | count + 1 => [.parameter .unnamed] ++ fixed ", " ++ mixingLayout name count

theorem reads_mixing {name : String} (husable : (Parameter.named name).Usable) (count : Nat) :
    Reads dialect (.entries (entriesOf (mixing name count))) (mixingLayout name count) := by
  induction count with
  | zero => exact .one (.parameter husable)
  | succ count ih =>
      have hunnamed : Parameter.unnamed.Usable := fun _ hname => nomatch hname
      cases count with
      | zero => exact .more (.parameter hunnamed) ih
      | succ count => exact .more (.parameter hunnamed) ih

theorem unnamed_mixingLayout (name : String) (count : Nat) :
    (mixingLayout name count).unnamed = count := by
  induction count with
  | zero => rfl
  | succ count ih =>
      rw [mixingLayout, Layout.unnamed_append, ih, Nat.add_comm]
      rfl

theorem mem_mixingLayout (name : String) (count : Nat) :
    Parameter.named name ∈ (mixingLayout name count).parameters := by
  induction count with
  | zero => exact List.mem_singleton_self _
  | succ count ih =>
      rw [mixingLayout, Layout.parameters_append]
      exact List.mem_append_right _ ih

/-- The marks of unnamed places do not start a name. -/
theorem holdsName_mixingLayout {marker : String}
    (hmarker : dialect.text? .namedParameter = some marker) (name : String) (count : Nat)
    (rest : List Char) :
    holdsName (((mixingLayout name count).markup dialect).encode.toList ++ rest) =
      holdsName (marker.toList ++ (name.toList ++ rest)) := by
  induction count with
  | zero => simp [mixingLayout, Parameter.named, Parameter.markup, hmarker, Markup.text, Piece.encode]
  | succ count ih =>
      have hmarks : ∀ c ∈ (slotMark ++ ", ").toList, c ≠ '\x05' := by simp [slotMark]
      have hencode : ((mixingLayout name (count + 1)).markup dialect).encode =
          slotMark ++ ", " ++ ((mixingLayout name count).markup dialect).encode := by
        rw [mixingLayout, Layout.markup_append, Markup.encode_append]
        rfl
      rw [hencode, String.toList_append, List.append_assoc, holdsName_append hmarks, ih]

/-- A query for such parameters. -/
def mixingSelect (name : String) (count : Nat) : Select :=
  ⟨⟨"t"⟩, mixing name count, false, [], none, .empty⟩

theorem reads_mixingSelect {name : String} (husable : (Parameter.named name).Usable)
    (count : Nat) :
    Reads dialect (.statement (.select (mixingSelect name count)))
      (fixed "SELECT " ++ mixingLayout name count ++ fixed " FROM t") := by
  have hname : Table.text ⟨"t"⟩ dialect = "t" := by
    simp [Table.text, Dialect.identifier]
  have hisEmpty : (mixing name count).isEmpty = false := by cases count <;> rfl
  have hreads : Reads dialect (.select (mixingSelect name count)) _ :=
    .select rfl .withoutTables (reads_mixing husable count) .absent .absent
  rw [hname, hisEmpty] at hreads
  exact .selectStatement (by
    simpa [groupingLayout, Slots.suffixLayout, Slots.empty] using hreads)

theorem build_mixingSelect {marker name : String}
    (hmarker : dialect.text? .namedParameter = some marker) (hnames : hasNames marker = false)
    (husable : (Parameter.named name).Usable) (count : Nat) :
    ∃ sql, (Statement.select (mixingSelect name count)).build dialect = .ok sql := by
  have hreads : Reads dialect _ _ := reads_mixingSelect husable count
  have hplain : ∀ c ∈ name.toList ++ " FROM t".toList, c ≠ '\x06' := by
    have htext : Text.Plain (name ++ " FROM t") :=
      Text.plain_append.mpr ⟨(husable name rfl).2, by decide⟩
    rw [← String.toList_append]
    exact ne_of_plain htext (by decide)
  have hselect : ∀ c ∈ "SELECT ".toList, c ≠ '\x05' := by simp
  rw [Statement.build_eq, Statement.render_eq_ok_iff.mpr ⟨_, hreads, rfl⟩, ok_bind, if_neg]
  · exact ⟨_, rfl⟩
  · rintro ⟨-, hmixed⟩
    rw [hasNames, Layout.markup_append, Layout.markup_append, Markup.encode_append,
      Markup.encode_append, String.toList_append, String.toList_append, List.append_assoc] at hmixed
    have hstart : holdsName ("SELECT ".toList ++
        (((mixingLayout name count).markup dialect).encode.toList ++ " FROM t".toList)) = true :=
      hmixed
    rw [holdsName_append hselect, holdsName_mixingLayout hmarker, holdsName_append_of_ne hplain,
      ← hasNames, hnames] at hstart
    cases hstart

/-! ## Telling placeholders apart -/

theorem Statement.text_tokens_of_build_eq_ok {statement : Statement} {sql : String}
    (hreads : Reads dialect (.statement statement) layout) (hdialect : dialect.Plain)
    (hstatement : statement.Plain) (h : statement.build dialect = .ok sql) :
    sql = textOf (layout.tokens dialect 0) := by
  obtain ⟨other, hother, -, rfl⟩ := exists_of_build_eq_ok hdialect hstatement h
  have htokens : layout.tokens dialect 0 = other.tokens dialect 0 :=
    congrArg Prod.fst (Except.ok.inj ((hreads.writes 0).symm.trans (hother.writes 0)))
  rw [htokens, other.textOf_tokens]

/-- The placeholders in everything that a dialect builds are kept apart exactly if its
markers do not overlap. -/
theorem Dialect.keepsApart_iff (dialect : Dialect) :
    (∀ (statement : Statement) (sql : String), statement.build dialect = .ok sql →
      ∃ tokens count, statement.write dialect 0 = .ok (tokens, count) ∧
        (dialect.Plain → statement.Plain → sql = textOf tokens) ∧ KeepsApart tokens) ↔
      ¬ dialect.Overlaps := by
  constructor
  · intro hapart hmarkers
    obtain ⟨marker, name, position, hmarker, hnames, hposition, hne, hplain, htext⟩ :=
      overlaps_iff.mp hmarkers
    have husable : (Parameter.named name).Usable := fun other hother =>
      Option.some.inj hother ▸ ⟨hne, hplain⟩
    -- as many unnamed parameters as it takes to have the placeholder of this position
    obtain ⟨sql, hbuild⟩ := build_mixingSelect hmarker hnames husable position
    obtain ⟨tokens, count, hwrite, -, hkeeps⟩ := hapart _ sql hbuild
    have hreads : Reads dialect _ _ := reads_mixingSelect husable position
    obtain rfl := congrArg Prod.fst (Except.ok.inj ((hreads.writes 0).symm.trans hwrite))
    refine hkeeps _ (Layout.mem_tokens_of_unnamed hposition ?_) _
      (Layout.mem_tokens_of_named ?_ 0) name rfl rfl ?_
    · simp [unnamed_mixingLayout]
    · simp [mem_mixingLayout]
    · simp [Parameter.named, Parameter.markup, hmarker, Markup.text, Piece.encode, htext]
  · intro hmarkers statement sql hbuild
    obtain ⟨layout, hreads⟩ := statement.exists_reads_of_build_eq_ok hbuild
    refine ⟨_, _, hreads.writes 0, fun hdialect hstatement => ?_, ?_⟩
    · exact statement.text_tokens_of_build_eq_ok hreads hdialect hstatement hbuild
    · exact statement.keepsApart_of_build_eq_ok hmarkers hreads hbuild 0

/-- A deletion with an unnamed placeholder, and one whose name is that of a numbered
placeholder without the marker of names. -/
def Delete.mixed : Delete where
  table := ⟨"users"⟩
  slots := {
    Slots.empty with
    filter? := some (.and
      (.binary (.column ⟨"users", "age"⟩) .equal (.parameter .unnamed))
      (.binary (.column ⟨"users", "rank"⟩) .equal (.parameter (.named "p1")))) }

/-- In the dialect of SQL Server both parameters of the deletion are written `@p1`. -/
theorem Delete.not_keepsApart_mixed :
    Dialect.sqlserver.check = .ok () ∧
      (Statement.delete .mixed).build .sqlserver =
        .ok "DELETE FROM users WHERE (age = @p1) AND (rank = @p1)" ∧
      ∃ tokens count, (Statement.delete .mixed).write .sqlserver 0 = .ok (tokens, count) ∧
        ¬ KeepsApart tokens := by
  refine ⟨rfl, rfl, _, _, rfl, fun hapart => ?_⟩
  exact hapart ⟨some .unnamed, "@p1"⟩ (by decide) ⟨some (.named "p1"), "@p1"⟩ (by decide) "p1" rfl
    rfl rfl

end SqlText
