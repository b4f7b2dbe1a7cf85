import SqlText.Execution
import SqlText.Proofs.Statement.Mixed

/-!
# Texts without marks

Building fills the places of unnamed parameters, resolving those of named ones.  What
is left in a text are the marks of places that were not filled, so a text is plain
exactly if no place is left in it (`Markup.plain_encode_iff`).

* A text that was built and resolved has no marks at all
  (`Markup.plain_encode_fill_fill`).
* A text that was only built still has the marks of names
  (`Markup.plain_encode_fill_iff`).  Running a statement builds it without resolving it,
  and hands these marks on.
-/

namespace SqlText

variable {dialect : Dialect}

/-! ## Places that are left -/

theorem Piece.plain_encode_iff {piece : Piece} (h : piece.Plain) :
    Text.Plain piece.encode ↔ piece.isSlot = false ∧ piece.isNamed = false := by
  have hslot : ¬ Text.Plain slotMark := by decide
  have hstart : ¬ Text.Plain nameStart := by decide
  cases piece with
  | text content => exact iff_of_true h ⟨rfl, rfl⟩
  | slot => exact iff_of_false hslot fun hpiece => Bool.noConfusion hpiece.1
  | named name =>
      refine iff_of_false (fun hplain => ?_) fun hpiece => Bool.noConfusion hpiece.2
      simp only [Piece.encode, Text.plain_append] at hplain
      exact hstart hplain.1.1

namespace Markup

/-- The encoding of plain markup is plain exactly if there are no places in it. -/
theorem plain_encode_iff {markup : Markup} (h : markup.Plain) :
    Text.Plain markup.encode ↔
      markup.any Piece.isSlot = false ∧ markup.any Piece.isNamed = false := by
  induction markup with
  | nil => exact iff_of_true Text.plain_empty ⟨rfl, rfl⟩
  | cons piece rest ih =>
      obtain ⟨hpiece, hrest⟩ := plain_cons.mp h
      rw [encode_cons, Text.plain_append, piece.plain_encode_iff hpiece, ih hrest]
      simp only [List.any_cons, Bool.or_eq_false_iff]
      exact and_and_and_comm

/-- None of the chosen places is left. -/
theorem any_fill_self {chosen : Piece → Bool} (htext : ∀ content, chosen (.text content) = false)
    (markup : Markup) (position : Nat) :
    (markup.fill dialect chosen position).any chosen = false := by
  induction markup generalizing position with
  | nil => rfl
  | cons piece rest ih =>
      rw [fill]
      split
      case isTrue => rw [List.any_cons, htext, ih, Bool.or_false]
      case isFalse hpiece =>
          have hleft : chosen piece = false := by simpa using hpiece
          rw [List.any_cons, hleft, ih, Bool.or_false]

/-- Places that were not chosen are left as they were. -/
theorem any_fill_of_disjoint {chosen other : Piece → Bool}
    (htext : ∀ content, other (.text content) = false)
    (hdisjoint : ∀ piece, chosen piece = true → other piece = false) (markup : Markup)
    (position : Nat) : (markup.fill dialect chosen position).any other = markup.any other := by
  induction markup generalizing position with
  | nil => rfl
  | cons piece rest ih =>
      rw [fill]
      split
      case isTrue hpiece => rw [List.any_cons, List.any_cons, htext, hdisjoint piece hpiece, ih]
      case isFalse => rw [List.any_cons, List.any_cons, ih]

/-- With its unnamed places filled, plain markup is plain text but for its names. -/
theorem plain_encode_fill_iff (hdialect : dialect.Plain) {markup : Markup} (h : markup.Plain)
    (position : Nat) :
    Text.Plain (markup.fill dialect Piece.isSlot position).encode ↔
      markup.any Piece.isNamed = false := by
  rw [plain_encode_iff (h.fill (hdialect.text _) _ _), any_fill_self fun _ => rfl,
    any_fill_of_disjoint (fun _ => rfl) fun _ => Piece.isNamed_of_isSlot]
  exact and_iff_right rfl

/-- With both kinds of places filled, plain markup is plain text. -/
theorem plain_encode_fill_fill (hdialect : dialect.Plain) {markup : Markup} (h : markup.Plain)
    (first second : Nat) :
    Text.Plain
      ((markup.fill dialect Piece.isSlot first).fill dialect Piece.isNamed second).encode := by
  have hplain : (markup.fill dialect Piece.isSlot first).Plain := h.fill (hdialect.text _) _ _
  rw [plain_encode_iff (hplain.fill (hdialect.text _) _ _),
    any_fill_of_disjoint (fun _ => rfl) fun _ => Piece.isSlot_of_isNamed]
  exact ⟨any_fill_self (fun _ => rfl) markup first, any_fill_self (fun _ => rfl) _ second⟩

end Markup

/-! ## Resolving what was built -/

namespace Statement

variable {statement : Statement}

/-- Whatever was built can be resolved, and nothing is left in it then. -/
theorem exists_resolveNames_of_build (hdialect : dialect.Plain) (hstatement : statement.Plain)
    {sql : String} (h : statement.build dialect = .ok sql) :
    ∃ named, resolveNames dialect sql = .ok named ∧ Text.Plain named.text := by
  obtain ⟨layout, -, hplain, rfl⟩ := exists_of_build_eq_ok hdialect hstatement h
  have hfilled := hplain.fill (hdialect.text _) Piece.isSlot 1
  exact ⟨_, resolveNames_encode dialect hfilled, Markup.plain_encode_fill_fill hdialect hplain 1 1⟩

/-- Resolving the names succeeds whenever building does.  It never comes upon a name
without an end, and it leaves a text without marks. -/
theorem buildNamed_resolves (hdialect : dialect.Plain) (hstatement : statement.Plain) :
    ((∃ named, statement.buildNamed dialect = .ok named) ↔
        ∃ sql, statement.build dialect = .ok sql) ∧
      (∀ fault, statement.buildNamed dialect = .error fault →
        fault.message ≠ "unterminated named parameter sentinel") ∧
      ∀ named, statement.buildNamed dialect = .ok named → Text.Plain named.text := by
  refine ⟨⟨?_, ?_⟩, ?_, ?_⟩
  · rintro ⟨named, h⟩
    rw [buildNamed_eq] at h
    obtain ⟨sql, hsql, -⟩ := bind_eq_ok.mp h
    exact ⟨sql, hsql⟩
  · rintro ⟨sql, hsql⟩
    obtain ⟨named, hnamed, -⟩ := exists_resolveNames_of_build hdialect hstatement hsql
    rw [buildNamed_eq, hsql, ok_bind]
    exact ⟨named, hnamed⟩
  · intro fault h
    rw [buildNamed_eq] at h
    cases hbuild : statement.build dialect with
    | ok sql =>
        obtain ⟨named, hnamed, -⟩ := exists_resolveNames_of_build hdialect hstatement hbuild
        rw [hbuild, ok_bind, hnamed] at h
        cases h
    | error found =>
        rw [hbuild] at h
        obtain rfl : found = fault := Except.error.inj h
        rcases fault_of_build_eq_error hbuild with hrender | ⟨rfl, -⟩
        · have hwriting := statement.failsInWriting found hrender
          exact Fault.message_ne_of_isOfWriting hwriting (Or.inr rfl)
        · decide
  · intro named h
    rw [buildNamed_eq] at h
    obtain ⟨sql, hsql, hresolve⟩ := bind_eq_ok.mp h
    obtain ⟨resolved, hresolved, hplain⟩ := exists_resolveNames_of_build hdialect hstatement hsql
    obtain rfl : resolved = named := Except.ok.inj (hresolved.symm.trans hresolve)
    exact hplain

end Statement

/-- An update with a name among its assignments and another one in a nested query. -/
def Update.sample : Update where
  table := ⟨"users"⟩
  assignments := [(⟨"users", "rank"⟩, .parameter (.named "x"))]
  slots := {
    Slots.empty with
    filter? := some (.rowExists { Select.of ⟨"log"⟩ with columns := [.parameter (.named "y")] }) }
  assignments_ne_nil := List.cons_ne_nil _ _

theorem Statement.buildNamed_resolves_sample :
    (∃ named, (Statement.update .sample).buildNamed .postgres = .ok named) ∧
      ∀ named, (Statement.update .sample).buildNamed .postgres = .ok named →
        Text.Plain named.text :=
  ⟨(buildNamed_resolves (by decide) (by decide)).1.mpr ⟨_, rfl⟩,
    (buildNamed_resolves (by decide) (by decide)).2.2⟩

/-! ## Running what was built -/

/-- The text that a run hands over is plain exactly if no name in it is left to be
resolved: the dialect has a marker for names, or there are no named parameters. -/
theorem Statement.plain_request_iff {statement : Statement} {executor : Executor}
    {arguments given : List Value} {sql : String} (hdialect : dialect.Plain)
    (hstatement : statement.Plain)
    (h : (statement.execute executor dialect arguments).request? = some (sql, given)) :
    Text.Plain sql ↔
      dialect.text? .namedParameter ≠ none ∨
        ∀ parameter ∈ statement.written, parameter.name? = none := by
  have hbuild : statement.build dialect = .ok sql := by
    unfold execute at h
    split at h
    case h_1 => cases h
    case h_2 text hbuild =>
        obtain ⟨rfl, -⟩ := Prod.mk.inj (Option.some.inj h)
        exact hbuild
  obtain ⟨layout, hreads, hplain, rfl⟩ := exists_of_build_eq_ok hdialect hstatement hbuild
  rw [Markup.plain_encode_fill_iff hdialect hplain, ← Bool.not_eq_true,
    Layout.any_isNamed_markup, hreads.parameters_eq]
  by_cases hmarker : dialect.text? .namedParameter = none <;> simp [hmarker]

/-- A deletion of what belongs to a user who is given by name. -/
def Delete.owned : Delete where
  table := ⟨"users"⟩
  slots := {
    Slots.empty with
    filter? := some
      (.binary (.column ⟨"users", "owner_id"⟩) .equal (.parameter (.named "uid"))) }

/-- Where names have a marker, the text that is handed over is plain. -/
theorem Statement.plain_request_iff_owned :
    ((Statement.delete .owned).execute (fun _ _ => .ok .noData) .sqlite [.int 42]).request? =
        some ("DELETE FROM users WHERE owner_id = :uid", [.int 42]) ∧
      Text.Plain "DELETE FROM users WHERE owner_id = :uid" := by
  have hrequest : ((Statement.delete .owned).execute (fun _ _ => .ok .noData) .sqlite
      [.int 42]).request? = some ("DELETE FROM users WHERE owner_id = :uid", [.int 42]) := rfl
  exact ⟨hrequest, (plain_request_iff (by decide) (by decide) hrequest).mpr (Or.inl (by decide))⟩

/-- Where names are numbered, the mark of the name is handed over as it is. -/
theorem Delete.not_plain_request_owned :
    Dialect.postgres.Plain ∧ (Statement.delete .owned).Plain ∧
      ((Statement.delete .owned).execute (fun _ _ => .ok .noData) .postgres [.int 42]).request? =
        some ("DELETE FROM users WHERE owner_id = \x05\x06uid\x06\x05", [.int 42]) ∧
      ¬ Text.Plain "DELETE FROM users WHERE owner_id = \x05\x06uid\x06\x05" :=
  ⟨by decide, by decide, rfl, by decide⟩

end SqlText
