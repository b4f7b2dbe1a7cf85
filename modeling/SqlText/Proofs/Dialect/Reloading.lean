import Mathlib.Data.List.Nodup
import SqlText.Dialect.Description
import SqlText.Dialect.Presets
import SqlText.Proofs.Dialect.Checked

/-!
# Descriptions that are loaded again

A description has an entry for each part of a dialect, and a loaded dialect has for each part
what the entry with its key says, or else what the plain dialect has there.  So a part is
loaded as it was if its entry is read as what was written there (`entryOr_of_restates`), and it
makes no difference then if the entry is missing where the plain dialect has the same.  Other
entries are not looked at, and neither is the order.

```text
described      name   substitutions   add-numbers-to-parameters   any-on-subquery-supported   …
restated       port   substitutions   name                        add-numbers-to-parameters   …
               of its own                                         missing: same as plain
```

What has been read is the described dialect, so its check decides whether it is loaded
(`describe_reloads`).
-/

namespace SqlText.Dialect

variable {dialect : Dialect} {table : Toml.Table}

/-! ## Texts -/

theorem textsOf_cons {name text : String} {rest : Toml.Table} {key : Substitution}
    (hname : Substitution.ofName? name = some key) :
    textsOf ((name, .string text) :: rest) = (textsOf rest).map fun others other =>
      if other = key then some text else others other := by
  rw [textsOf, hname]
  cases textsOf rest <;> rfl

/-- The texts for some of the keys are loaded as they were. -/
theorem textsOf_filterMap (dialect : Dialect) (keys : List Substitution) :
    textsOf (keys.filterMap fun key =>
        (dialect.overrides key).map fun text => (key.name, .string text)) =
      .ok fun key => if key ∈ keys then dialect.overrides key else none := by
  induction keys with
  | nil => rfl
  | cons first rest ih =>
      rw [List.filterMap_cons]
      cases htext : dialect.overrides first with
      | none =>
          simp only [Option.map_none, ih]
          congr 1
          funext key
          by_cases hkey : key = first
          · simp [hkey, htext]
          · simp [hkey]
      | some text =>
          simp only [Option.map_some, textsOf_cons (Substitution.ofName?_name first), ih]
          refine congrArg Except.ok (funext fun key => ?_)
          by_cases hkey : key = first
          · simp [hkey, htext]
          · simp [hkey]

theorem textsOf_describeTexts (dialect : Dialect) :
    textsOf dialect.describeTexts = .ok dialect.overrides := by
  rw [describeTexts, textsOf_filterMap]
  simp only [Substitution.mem_keys, if_true]

/-! ## Entries -/

/-- The keys of a description. -/
def entryKeys : List String :=
  ["name", "substitutions", "add-numbers-to-parameters", "any-on-subquery-supported",
    "drop-index-requires-on-table-name", "with-delete-requires-using",
    "with-update-requires-from", "date-format"]

theorem nodup_entryKeys : entryKeys.Nodup := by decide

theorem map_fst_describe_sublist (dialect : Dialect) :
    (dialect.describe.map Prod.fst).Sublist entryKeys := by
  unfold describe
  cases dialect.datePattern? with
  | none => exact List.sublist_append_left (entryKeys.take 7) ["date-format"]
  | some pattern => exact List.Sublist.refl _

/-- Where a key has no two values, looking it up finds the one that it has. -/
theorem lookup_eq_some_iff_mem {key : String} {value : Toml.Value}
    (h : ∀ first second, (key, first) ∈ table → (key, second) ∈ table → first = second) :
    table.lookup key = some value ↔ (key, value) ∈ table := by
  have hmem : ∀ {found}, table.lookup key = some found → (key, found) ∈ table := by
    intro found hfound
    obtain ⟨before, after, rfl, -⟩ := List.lookup_eq_some_iff.mp hfound
    simp
  refine ⟨hmem, fun hvalue => ?_⟩
  cases hfound : table.lookup key with
  | none =>
      have hne := List.lookup_eq_none_iff.mp hfound _ hvalue
      simp at hne
  | some found => rw [h found value (hmem hfound) hvalue]

theorem eq_of_mem_describe {key : String} {first second : Toml.Value}
    (hfirst : (key, first) ∈ dialect.describe) (hsecond : (key, second) ∈ dialect.describe) :
    first = second := by
  have hnodup := nodup_entryKeys.sublist dialect.map_fst_describe_sublist
  have heq := List.inj_on_of_nodup_map hnodup hfirst hsecond rfl
  exact (Prod.mk.inj heq).2

/-- A table says the same as the description of a dialect: it has the entries of that one but
for those at the keys `missing`, where the plain dialect has the same, and the entries `extra`,
which belong to no part.  They may be in any order. -/
structure Restates (table : Toml.Table) (dialect : Dialect) (missing : List String)
    (extra : Toml.Table) : Prop where
  same_as_plain : ∀ key ∈ missing, dialect.describe.lookup key = ansi.describe.lookup key
  of_no_part : ∀ entry ∈ extra, entry.1 ∉ entryKeys
  perm : table.Perm ((dialect.describe.filter fun entry => entry.1 ∉ missing) ++ extra)

namespace Restates

variable {missing : List String} {extra : Toml.Table} (h : Restates table dialect missing extra)
include h

theorem mem_iff {key : String} (hkey : key ∈ entryKeys) {value : Toml.Value} :
    (key, value) ∈ table ↔ (key, value) ∈ dialect.describe ∧ key ∉ missing := by
  have hextra : (key, value) ∉ extra := fun hmem => h.of_no_part _ hmem hkey
  simp [h.perm.mem_iff, hextra]

theorem lookup_eq {key : String} (hkey : key ∈ entryKeys) :
    table.lookup key = if key ∈ missing then none else dialect.describe.lookup key := by
  have hunique : ∀ first second, (key, first) ∈ table → (key, second) ∈ table → first = second :=
    fun first second hfirst hsecond =>
      eq_of_mem_describe ((h.mem_iff hkey).mp hfirst).1 ((h.mem_iff hkey).mp hsecond).1
  refine Option.ext fun value => ?_
  rw [lookup_eq_some_iff_mem hunique, h.mem_iff hkey]
  split
  case isTrue hmissing => simp [hmissing]
  case isFalse hmissing =>
    rw [lookup_eq_some_iff_mem fun _ _ => eq_of_mem_describe]
    exact and_iff_left hmissing

/-- A part that is read from descriptions as it was written is read from the table as well. -/
theorem entryOr_eq {α : Type} {key : String} {read : Toml.Value → Except Fault α}
    (part : Dialect → α) (hkey : key ∈ entryKeys)
    (hread : ∀ dialect : Dialect,
      entryOr dialect.describe key read (part ansi) = .ok (part dialect)) :
    entryOr table key read (part ansi) = .ok (part dialect) := by
  by_cases hmissing : key ∈ missing
  · calc entryOr table key read (part ansi)
        = .ok (part ansi) := by rw [entryOr, h.lookup_eq hkey, if_pos hmissing]
      _ = entryOr ansi.describe key read (part ansi) := (hread ansi).symm
      _ = entryOr dialect.describe key read (part ansi) := by
          rw [entryOr, entryOr, h.same_as_plain key hmissing]
      _ = .ok (part dialect) := hread dialect
  · rw [entryOr, h.lookup_eq hkey, if_neg hmissing]
    exact hread dialect

/-- What is read from the table is the described dialect. -/
theorem read_eq : read table = .ok dialect := by
  have htexts : ∀ dialect : Dialect,
      entryOr dialect.describe "substitutions" overridesOf ansi.overrides =
        .ok dialect.overrides := textsOf_describeTexts
  have hdate : ∀ dialect : Dialect, entryOr dialect.describe "date-format"
      (fun value => (stringOf value).map some) ansi.datePattern? = .ok dialect.datePattern? := by
    intro dialect
    unfold describe
    cases dialect.datePattern? <;> rfl
  unfold read
  rw [h.entryOr_eq name (by decide) fun _ => rfl,
    h.entryOr_eq overrides (by decide) htexts,
    h.entryOr_eq numbersParameters (by decide) fun _ => rfl,
    h.entryOr_eq allowsAnyOnQuery (by decide) fun _ => rfl,
    h.entryOr_eq dropIndexNamesTable (by decide) fun _ => rfl,
    h.entryOr_eq deleteListsTables (by decide) fun _ => rfl,
    h.entryOr_eq updateListsTables (by decide) fun _ => rfl,
    h.entryOr_eq datePattern? (by decide) hdate]
  rfl

end Restates

/-! ## Loading -/

/-- What the check of a dialect finds is a fault of its configuration. -/
theorem kind_of_check_eq_error {fault : Fault} (h : dialect.check = .error fault) :
    fault.kind = .configuration := by
  by_cases hreadable : dialect.HasReadablePattern
  · rw [check_of_readable hreadable] at h
    split at h
    · obtain rfl := Except.error.inj h
      rfl
    · cases h
  · obtain ⟨pattern, hpattern, hunreadable⟩ : ∃ pattern, dialect.datePattern? = some pattern ∧
        ¬ (Calendar.Pattern.ofString? pattern).isSome := by
      simpa [HasReadablePattern] using hreadable
    have hinvalid : checkDatePattern dialect.name pattern =
        .error (.invalidDatePattern dialect.name pattern) := if_neg hunreadable
    unfold check at h
    rw [hpattern] at h
    dsimp only at h
    rw [hinvalid] at h
    obtain rfl := Except.error.inj h
    rfl

/-- Loading a table gives a dialect if it can be used, and fails with what its check finds if
it cannot. -/
structure LoadsAs (table : Toml.Table) (dialect : Dialect) : Prop where
  eq_ok : dialect.check = .ok () → ofTable table = .ok dialect
  eq_error : ∀ fault, dialect.check = .error fault →
    ofTable table = .error fault ∧ fault.kind = .configuration

theorem loadsAs_of_read_eq (h : read table = .ok dialect) : LoadsAs table dialect := by
  have hload : ofTable table = dialect.check.map fun _ => dialect := by
    rw [ofTable, h, ok_bind]
    cases dialect.check <;> rfl
  constructor
  · intro hcheck
    rw [hload, hcheck]
    rfl
  · intro fault hcheck
    refine ⟨?_, kind_of_check_eq_error hcheck⟩
    rw [hload, hcheck]
    rfl

theorem restates_describe (dialect : Dialect) : Restates dialect.describe dialect [] [] where
  same_as_plain := by simp
  of_no_part := by simp
  perm := by simp

/-- A dialect that has been described is loaded from its description, if it passes its check,
and so it is from any table that says the same: without entries that the plain dialect has as
well, with entries of no part, and in any order.  If it does not pass its check, loading fails
with the fault that was found. -/
theorem describe_reloads (dialect : Dialect) :
    LoadsAs dialect.describe dialect ∧
      ∀ (table : Toml.Table) (missing : List String) (extra : Toml.Table),
        Restates table dialect missing extra → LoadsAs table dialect :=
  ⟨loadsAs_of_read_eq dialect.restates_describe.read_eq, fun _ _ _ h => loadsAs_of_read_eq h.read_eq⟩

/-- Keys at which many dialects have the same as the plain one. -/
def plainKeys : List String :=
  ["any-on-subquery-supported", "drop-index-requires-on-table-name"]

/-- Entries that say nothing about a dialect, one of them at the key of a text. -/
def strangeEntries : Toml.Table :=
  [("port", .integer 5432), ("numbered-parameter", .string "?")]

/-- A description without some of its entries, behind others. -/
def restated (dialect : Dialect) : Toml.Table :=
  strangeEntries ++ dialect.describe.filter fun entry => entry.1 ∉ plainKeys

theorem restates_restated (hquery : dialect.allowsAnyOnQuery = true)
    (hindex : dialect.dropIndexNamesTable = false) :
    Restates dialect.restated dialect plainKeys strangeEntries where
  same_as_plain := by
    rw [plainKeys, List.forall_mem_cons, List.forall_mem_singleton]
    exact ⟨congrArg (some ∘ Toml.Value.boolean) hquery, congrArg (some ∘ Toml.Value.boolean) hindex⟩
  of_no_part := by decide
  perm := List.perm_append_comm

/-- The dialect of PostgreSQL with an empty marker. -/
def unmarkedPostgres : Dialect :=
  postgres.withText .numberedParameter ""

theorem describe_reloads_postgres :
    (Restates postgres.restated postgres plainKeys strangeEntries ∧ postgres.check = .ok () ∧
        ofTable postgres.restated = .ok postgres) ∧
      Restates unmarkedPostgres.restated unmarkedPostgres plainKeys strangeEntries ∧
        unmarkedPostgres.check = .error (.emptyMarker "postgres") ∧
        ofTable unmarkedPostgres.restated = .error (.emptyMarker "postgres") := by
  have hcheck : unmarkedPostgres.check = .error (.emptyMarker "postgres") := by
    rw [check_of_readable (by decide), if_pos (by decide)]
    rfl
  have hrestates : Restates postgres.restated postgres plainKeys strangeEntries :=
    restates_restated rfl rfl
  have hunmarked :
      Restates unmarkedPostgres.restated unmarkedPostgres plainKeys strangeEntries :=
    restates_restated rfl rfl
  have hload := (describe_reloads postgres).2 _ _ _ hrestates
  have hfail := (describe_reloads unmarkedPostgres).2 _ _ _ hunmarked
  exact ⟨⟨hrestates, check_postgres, hload.eq_ok check_postgres⟩, hunmarked, hcheck,
    (hfail.eq_error _ hcheck).1⟩

end SqlText.Dialect
