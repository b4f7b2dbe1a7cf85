import Mathlib.Data.List.Dedup
import SqlText.Proofs.Placeholder.Binding
import SqlText.Proofs.Statement.History
import SqlText.Proofs.Statement.Mixed
import SqlText.Proofs.Statement.Tells

/-!
# The log of a build

A statement that cannot be written leaves behind what was recorded during writing, which
is at most one event (`Statement.tells`).  A text that mixes its parameters leaves one
event about that, and any other one event about its unnamed parameters, if it has some,
and one about the whole.  Resolving names adds an event about the names, if there are
some.  The log of a build therefore tells what became of it, and with which numbers.
-/

namespace SqlText

/-! ## Events of building -/

/-- There are as many entries as different names. -/
theorem Positions.Locates.size_eq {positions : Positions} {names : List String}
    (h : positions.Locates names) : positions.size = names.dedup.length := by
  have hnodup : (positions.entries.map Prod.fst).Nodup :=
    List.pairwise_map.mpr (positions.ascending.imp fun hlt => String.ne_of_lt hlt)
  have hmem : ∀ name, name ∈ positions.entries.map Prod.fst ↔ name ∈ names.dedup := by
    intro name
    rw [List.mem_dedup, List.mem_map]
    constructor
    · rintro ⟨entry, hentry, rfl⟩
      exact (h.eq_indicesOf hentry).1
    · intro hname
      exact ⟨_, h.mem_keys hname, rfl⟩
  have hperm := (List.perm_ext_iff_of_nodup hnodup names.nodup_dedup).mpr hmem
  calc
    positions.size = (positions.entries.map Prod.fst).length := (List.length_map _).symm
    _ = names.dedup.length := hperm.length_eq

/-- Resolving names succeeds with the positions of some names, and records their number
and how many of them are different. -/
theorem events_resolveNamesLogged {dialect : Dialect} {sql : String} {named : NamedText}
    (h : resolveNames dialect sql = .ok named) :
    ∃ names : List String, named.positions.Locates names ∧ named.count = names.length ∧
      (resolveNamesLogged dialect sql).events =
        if 0 < named.count then [.resolved named.count names.dedup.length] else [] := by
  have hevents : (resolveNamesLogged dialect sql).events =
      if named.count = 0 then [] else [.resolved named.count named.positions.size] := by
    rw [resolveNamesLogged, h]
    rfl
  unfold resolveNames at h
  split at h
  case h_1 => cases h
  case h_2 head tail _ =>
    obtain rfl := Except.ok.inj h
    have hlocates := Positions.locates_ofNames (tail.map fun entry => String.ofList entry.1)
    refine ⟨_, hlocates, (List.length_map _).symm, ?_⟩
    rw [hevents, hlocates.size_eq]
    show (if tail.length = 0 then _ else _) = if 0 < tail.length then _ else _
    by_cases hcount : tail.length = 0
    · rw [if_pos hcount, if_neg (by omega)]
    · rw [if_neg hcount, if_pos (by omega)]

namespace Statement

variable {dialect : Dialect} {statement : Statement}

/-- What is recorded of a statement that is built with the given text and number of
unnamed parameters: how many of them were replaced, if there are any, and then the whole. -/
def builtEvents (statement : Statement) (dialect : Dialect) (sql : String)
    (placeholders : Nat) : List Event :=
  (if placeholders = 0 then []
    else if dialect.numbersParameters then [.numbered placeholders]
    else [.replaced placeholders]) ++
    [.built statement.kind dialect.name sql.utf8ByteSize placeholders]

/-- A statement that cannot be written is not built, and nothing more is recorded. -/
theorem buildLogged_of_error {fault : Fault} (h : statement.render dialect = .error fault) :
    statement.buildLogged dialect = .ofWriting (.error fault) := by
  rw [buildLogged, renderLogged_eq, h]
  cases fault <;> rfl

/-- What is recorded of a text: that it has parameters of both kinds, or how many
parameters were numbered and that the statement was built. -/
theorem buildLogged_of_ok {markup : Markup} (h : statement.render dialect = .ok markup) :
    statement.buildLogged dialect =
      if 0 < countSlots markup.encode ∧ hasNames markup.encode then
        .of [.mixed statement.kind (countSlots markup.encode)] (.error .mixedParameters)
      else .of
        (statement.builtEvents dialect (numberSlots dialect markup.encode)
          (countSlots markup.encode))
        (.ok (numberSlots dialect markup.encode)) := by
  rw [buildLogged, renderLogged_eq, h]
  show (if _ then _ else _) = _
  split
  · rfl
  · rfl

theorem exists_events_of_build_eq_ok {sql : String} (h : statement.build dialect = .ok sql) :
    ∃ markup, statement.render dialect = .ok markup ∧
      (statement.buildLogged dialect).events =
        statement.builtEvents dialect sql (countSlots markup.encode) := by
  cases hrender : statement.render dialect with
  | error fault =>
      rw [build, buildLogged_of_error hrender, Logged.result_ofWriting] at h
      cases h
  | ok markup =>
      rw [build, buildLogged_of_ok hrender] at h
      refine ⟨markup, rfl, ?_⟩
      rw [buildLogged_of_ok hrender]
      split at h
      case isTrue => cases h
      case isFalse hmixed =>
        rw [if_neg hmixed, ← Except.ok.inj h]
        rfl

/-- Where writing fails, the only event there may be is about refused steps. -/
theorem events_of_render_eq_error {fault : Fault}
    (h : statement.render dialect = .error fault) :
    (statement.buildLogged dialect).events =
      match fault with
      | .rejected kind problems => [.rejected kind problems.length]
      | _ => [] := by
  rw [buildLogged_of_error h]
  cases fault <;> rfl

theorem events_of_mixed {markup : Markup} (hrender : statement.render dialect = .ok markup)
    (h : statement.build dialect = .error .mixedParameters) :
    hasNames markup.encode = true ∧ 0 < countSlots markup.encode ∧
      (statement.buildLogged dialect).events =
        [.mixed statement.kind (countSlots markup.encode)] := by
  rw [build, buildLogged_of_ok hrender] at h
  rw [buildLogged_of_ok hrender]
  split at h
  case isTrue hmixed =>
    rw [if_pos hmixed]
    exact ⟨hmixed.2, hmixed.1, rfl⟩
  case isFalse => cases h

/-- Writing never finds that parameters are mixed, so this is found in the text. -/
theorem exists_render_of_mixed (h : statement.build dialect = .error .mixedParameters) :
    ∃ markup, statement.render dialect = .ok markup := by
  rcases fault_of_build_eq_error h with hrender | ⟨-, hmarkup⟩
  · have hwriting := statement.failsInWriting _ hrender
    cases hwriting
  · exact hmarkup

theorem events_buildNamedLogged_of_ok {sql : String} (h : statement.build dialect = .ok sql) :
    (statement.buildNamedLogged dialect).events =
      (statement.buildLogged dialect).events ++ (resolveNamesLogged dialect sql).events := by
  unfold build at h
  show (Logged.andThen _ _).events = _
  rw [Logged.andThen, h]

theorem events_buildNamedLogged_of_error {fault : Fault}
    (h : statement.build dialect = .error fault) :
    (statement.buildNamedLogged dialect).events = (statement.buildLogged dialect).events := by
  unfold build at h
  show (Logged.andThen _ _).events = _
  rw [Logged.andThen, h]

/-- Resolving names that fails leaves no event behind. -/
theorem events_of_buildNamed_eq_error {fault : Fault}
    (h : statement.buildNamed dialect = .error fault) :
    (statement.buildNamedLogged dialect).events = (statement.buildLogged dialect).events := by
  cases hbuild : statement.build dialect with
  | error found => exact events_buildNamedLogged_of_error hbuild
  | ok sql =>
      rw [buildNamed_eq, hbuild, ok_bind] at h
      rw [events_buildNamedLogged_of_ok hbuild, resolveNamesLogged, h]
      exact List.append_nil _

/-- Every build is recorded as what it was. -/
theorem log_build (dialect : Dialect) (statement : Statement) :
    statement.renderLogged dialect = .ofWriting (statement.render dialect) ∧
      (∀ sql, statement.build dialect = .ok sql →
        ∃ markup, statement.render dialect = .ok markup ∧
          (statement.buildLogged dialect).events =
            statement.builtEvents dialect sql (countSlots markup.encode)) ∧
      (∀ kind problems, statement.build dialect = .error (.rejected kind problems) →
        (statement.buildLogged dialect).events = [.rejected kind problems.length] ∧
          problems ≠ [] ∧ statement.MayRefuse kind problems ∧
          (Fault.rejected kind problems).message =
            "; ".intercalate (problems.map Problem.message)) ∧
      (statement.build dialect = .error .mixedParameters →
        ∃ markup, statement.render dialect = .ok markup ∧ hasNames markup.encode = true ∧
          0 < countSlots markup.encode ∧
          (statement.buildLogged dialect).events =
            [.mixed statement.kind (countSlots markup.encode)]) ∧
      (∀ fault, statement.build dialect = .error fault → fault ≠ .mixedParameters →
        (∀ kind problems, fault ≠ .rejected kind problems) →
        (statement.buildLogged dialect).events = []) ∧
      (∀ named, statement.buildNamed dialect = .ok named →
        ∃ names : List String, named.positions.Locates names ∧ named.count = names.length ∧
          (statement.buildNamedLogged dialect).events =
            (statement.buildLogged dialect).events ++
              if 0 < named.count then [.resolved named.count names.dedup.length] else []) ∧
      ∀ fault, statement.buildNamed dialect = .error fault →
        (statement.buildNamedLogged dialect).events =
          (statement.buildLogged dialect).events := by
  refine ⟨renderLogged_eq dialect statement, fun sql h => exists_events_of_build_eq_ok h,
    fun kind problems h => ?_, fun h => ?_, fun fault h hmixed hrejected => ?_,
    fun named h => ?_, fun fault h => events_of_buildNamed_eq_error h⟩
  · rcases fault_of_build_eq_error h with hrender | ⟨hfault, -⟩
    · obtain ⟨hproblems, hrefused⟩ := (statement.tells dialect).refused kind problems hrender
      exact ⟨events_of_render_eq_error hrender, hproblems, hrefused, rfl⟩
    · cases hfault
  · obtain ⟨markup, hrender⟩ := exists_render_of_mixed h
    exact ⟨markup, hrender, events_of_mixed hrender h⟩
  · rcases fault_of_build_eq_error h with hrender | ⟨hfault, -⟩
    · rw [events_of_render_eq_error hrender]
      split
      · exact absurd rfl (hrejected _ _)
      · rfl
    · exact absurd hfault hmixed
  · rw [buildNamed_eq] at h
    obtain ⟨sql, hbuild, hresolve⟩ := bind_eq_ok.mp h
    obtain ⟨names, hlocates, hcount, hevents⟩ := events_resolveNamesLogged hresolve
    exact ⟨names, hlocates, hcount, by rw [events_buildNamedLogged_of_ok hbuild, hevents]⟩

/-- A deletion of rows of a given age for which a query has no row.  The query may have
been given a second filter. -/
def withQuery (hasSecondFilter : Bool) : Statement :=
  let hasCode := Clause.binary (.column ⟨"orders", "code"⟩) .equal (.parameter .unnamed)
  let steps := if hasSecondFilter then [.filter hasCode, .filter hasCode] else [.filter hasCode]
  .delete {
    table := ⟨"users"⟩
    slots := Slots.empty.setFilter (.and
      (.binary (.column ⟨"users", "age"⟩) .equal (.parameter .unnamed))
      (.noRowExists ((Select.of ⟨"orders"⟩).withSteps steps))) }

/-- The query is reported, and not the deletion that it stands in.  Without its second
filter two parameters are numbered. -/
theorem log_build_withQuery :
    ((withQuery true).buildLogged .postgres).events = [.rejected .select 1] ∧
      ∃ sql, (withQuery false).build .postgres = .ok sql ∧
        ((withQuery false).buildLogged .postgres).events =
          [.numbered 2, .built .delete "postgres" sql.utf8ByteSize 2] := by
  constructor
  · exact ((log_build .postgres (withQuery true)).2.2.1 .select [.secondFilter] rfl).1
  · obtain ⟨markup, hrender, hevents⟩ := (log_build .postgres (withQuery false)).2.1 _ rfl
    obtain rfl := Except.ok.inj hrender
    exact ⟨_, rfl, hevents⟩

end Statement

end SqlText
