import SqlText.Proofs.Calendar.Reading

/-!
# Patterns that ask for a time zone

A date has no time zone, and this is the only thing that a pattern can ask for in vain
(`DateTime.format?_eq_none_iff`).  Whether it does can be seen in its text: one of seven
directives stands there between two patterns (`asksForZone_iff`).
-/

namespace SqlText.Calendar

/-! ## Words that ask for a time zone -/

theorem eq_of_zone_mem_wordDirective? {c : Char} {items : List Item}
    (h : wordDirective? c = some items) (hzone : .zone ∈ items) : c = 'Z' ∨ c = 'z' ∨ c = '+' := by
  unfold wordDirective? at h
  split at h
  all_goals first
    | contradiction
    | obtain rfl := Option.some.inj h
      first
      | exact absurd hzone (by decide)
      | decide

/-- The words that stand for a time zone are the directives for it. -/
theorem Word.mem_zoneDirectives {word : List Char} {items : List Item} (h : Word word items)
    (hzone : .zone ∈ items) : ∃ text ∈ zoneDirectives, word = text.toList := by
  cases h with
  | directive h =>
      unfold directive? at h
      split at h
      · obtain rfl := Option.some.inj h
        simp at hzone
      · rcases eq_of_zone_mem_wordDirective? h hzone with rfl | rfl | rfl
        · exact ⟨"%Z", by decide, rfl⟩
        · exact ⟨"%z", by decide, rfl⟩
        · exact ⟨"%+", by decide, rfl⟩
  | padded _ h =>
      obtain ⟨found, -, rfl⟩ := Option.map_eq_some_iff.mp h
      simp at hzone
  | zone h => exact ⟨_, h, rfl⟩
  | _ => simp at hzone

/-- Where an item for a time zone comes from, a directive for it stands between two
sequences of words. -/
theorem Spells.exists_of_zone_mem {chars : List Char} {items : List Item}
    (h : Spells chars items) (hzone : .zone ∈ items) :
    ∃ before first directive after second, Spells before first ∧ directive ∈ zoneDirectives ∧
      Spells after second ∧ chars = before ++ (directive.toList ++ after) := by
  induction h with
  | nil => cases hzone
  | @cons word rest items others hword hrest ih =>
      -- the item belongs to the first word or to a later one
      rcases List.mem_append.mp hzone with hzone | hzone
      · obtain ⟨directive, hdirective, rfl⟩ := hword.mem_zoneDirectives hzone
        exact ⟨[], [], directive, rest, others, .nil, hdirective, hrest, rfl⟩
      · obtain ⟨before, first, directive, after, second, hbefore, hdirective, hafter, rfl⟩ :=
          ih hzone
        refine ⟨word ++ before, items ++ first, directive, after, second, .cons hword hbefore,
          hdirective, hafter, ?_⟩
        rw [List.append_assoc]

/-- A text that is a pattern on either side of a directive for a time zone. -/
def AsksForZone (text : String) : Prop :=
  ∃ before directive after, (Pattern.ofString? before).isSome ∧ directive ∈ zoneDirectives ∧
    (Pattern.ofString? after).isSome ∧ text = before ++ directive ++ after

/-- A text asks for a time zone if it is a pattern with an item for it. -/
theorem asksForZone_iff {text : String} :
    AsksForZone text ↔ ∃ pattern, Pattern.ofString? text = some pattern ∧ .zone ∈ pattern.items := by
  constructor
  · rintro ⟨before, directive, after, hbefore, hdirective, hafter, rfl⟩
    obtain ⟨front, hfront⟩ := Option.isSome_iff_exists.mp hbefore
    obtain ⟨rest, hrest⟩ := Option.isSome_iff_exists.mp hafter
    refine ⟨⟨front.items ++ ([.zone] ++ rest.items)⟩, ?_, by simp⟩
    rw [ofString?_eq_some_iff, String.toList_append, String.toList_append, List.append_assoc]
    exact (ofString?_eq_some_iff.mp hfront).append
      (.cons (.zone hdirective) (ofString?_eq_some_iff.mp hrest))
  · rintro ⟨pattern, hpattern, hzone⟩
    obtain ⟨before, first, directive, after, second, hbefore, hdirective, hafter, htext⟩ :=
      (ofString?_eq_some_iff.mp hpattern).exists_of_zone_mem hzone
    have hsome : ∀ {chars items}, Spells chars items →
        (Pattern.ofString? (String.ofList chars)).isSome := by
      intro chars items h
      refine Option.isSome_iff_exists.mpr ⟨⟨items⟩, ofString?_eq_some_iff.mpr ?_⟩
      rwa [String.toList_ofList]
    refine ⟨String.ofList before, directive, String.ofList after, hsome hbefore, hdirective,
      hsome hafter, ?_⟩
    rw [← String.toList_inj, htext]
    simp

instance (text : String) : Decidable (AsksForZone text) :=
  decidable_of_iff ((Pattern.ofString? text).any fun pattern => .zone ∈ pattern.items) <| by
    rw [asksForZone_iff, Option.any_eq_true]
    simp only [decide_eq_true_eq]

/-! ## Dates in the form that a pattern describes -/

namespace DateTime

variable {moment : DateTime}

theorem itemText?_eq_none_iff {item : Item} : moment.itemText? item = none ↔ item = .zone := by
  cases item <;> simp [itemText?]

theorem mapM_itemText?_eq_none_iff {items : List Item} :
    items.mapM moment.itemText? = none ↔ .zone ∈ items := by
  induction items with
  | nil => simp
  | cons item rest ih =>
      have hitem : .zone = item ↔ moment.itemText? item = none :=
        eq_comm.trans itemText?_eq_none_iff.symm
      rw [List.mapM_cons, List.mem_cons, ← ih, hitem]
      cases moment.itemText? item <;> cases rest.mapM moment.itemText? <;> simp

/-- A date can be written as a pattern describes it unless a time zone is asked for. -/
theorem format?_eq_none_iff {pattern : Pattern} :
    moment.format? pattern = none ↔ .zone ∈ pattern.items := by
  rw [format?, Option.map_eq_none_iff, mapM_itemText?_eq_none_iff]

end DateTime

end SqlText.Calendar
