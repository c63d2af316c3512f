import BlockStorage.Volume.Options
import BlockStorage.Settings

/-!
# What a good reading says

A value that was read from data has passed the checks of its fields.

* `Check.map_eq_good`, `Check.seq_eq_good`, `Check.under_eq_good`,
  `Check.andThen_eq_good`, `Check.ite_eq_good`: where a good value comes from.
  `Check.Yields`: what it is.
* `Options.Valid`: options that were read; the size that they ask for is more than zero.
* `PollSettings.Valid`: settings that were read; they give every operation a sound budget.
* `StoreSettings.Valid`: settings that were read; their prefixes can stand in an id.
-/

namespace BlockStorage

namespace Check

variable {α β : Type} {b : β}

theorem map_eq_good {f : α → β} {a : Checked α} :
    f <$> a = .good b ↔ ∃ x, a = .good x ∧ f x = b := by
  cases a <;> simp [Functor.map, Checked.map]

theorem seq_eq_good {f : Checked (α → β)} {a : Checked α} :
    f <*> a = .good b ↔ ∃ g x, f = .good g ∧ a = .good x ∧ g x = b :=
  Checked.both_good_iff f a b

theorem under_eq_good {a : Checked β} {step : String} : a.under step = .good b ↔ a = .good b := by
  cases a <;> simp [Checked.under]

theorem andThen_eq_good {a : Checked α} {f : α → Checked β} :
    a.andThen f = .good b ↔ ∃ x, a = .good x ∧ f x = .good b := by
  cases a <;> simp [Checked.andThen]

/-- What a checked value is, if it is good. -/
def Yields (P : β → Prop) (a : Checked β) : Prop := ∀ b, a = .good b → P b

theorem Yields.map {P : β → Prop} {f : α → β} {a : Checked α} (h : Yields (fun x => P (f x)) a) :
    Yields P (f <$> a) := by
  intro b hb
  obtain ⟨x, hx, rfl⟩ := map_eq_good.mp hb
  exact h x hx

/-- What does not depend on the second of two values is settled by the first. -/
theorem Yields.seq {P : β → Prop} {f : Checked (α → β)} {a : Checked α}
    (h : Yields (fun g => ∀ x, P (g x)) f) : Yields P (f <*> a) := by
  intro b hb
  obtain ⟨g, x, hg, -, rfl⟩ := seq_eq_good.mp hb
  exact h g hg x

/-! ## Fields -/

theorem nullable_eq_good {r : Reader β} {d : Datum} (h : nullable r d = .good (some b)) :
    r d = .good b := by
  rw [nullable.eq_def] at h
  split at h
  · cases h
  · cases hr : r d with
    | good c =>
      rw [hr] at h
      exact congrArg _ (Option.some.inj (Checked.good.inj h))
    | bad is =>
      rw [hr] at h
      cases h

theorem fieldOr_eq_good {fs : Fields} {name : String} {default : β} {r : Reader β}
    (h : fieldOr fs name default r = .good b) : b = default ∨ ∃ d, r d = .good b := by
  rw [fieldOr] at h
  split at h
  · next d _ => exact .inr ⟨d, under_eq_good.mp h⟩
  · exact .inl (Checked.good.inj h).symm

/-- An entry of a table that was read has been read itself. -/
theorem mem_entries {r : Reader β} {fs : Fields} {bs : List (String × β)}
    (h : entries r fs = .good bs) {entry : String × β} (he : entry ∈ bs) :
    ∃ d, r d = .good entry.2 := by
  induction fs generalizing bs with
  | nil =>
    cases h
    cases he
  | cons f fs ih =>
    obtain ⟨g, rest, hg, hrest, rfl⟩ := seq_eq_good.mp h
    obtain ⟨b, hb, rfl⟩ := map_eq_good.mp hg
    rcases List.mem_cons.mp he with rfl | he
    · exact ⟨f.2, under_eq_good.mp hb⟩
    · exact ih hrest he

theorem mem_table {r : Reader β} {d : Datum} {bs : List (String × β)}
    (h : table r d = .good bs) {entry : String × β} (he : entry ∈ bs) :
    ∃ d, r d = .good entry.2 := by
  cases d with
  | record fs => exact mem_entries h he
  | _ => cases h

/-! ## Bounds -/

theorem ite_eq_good {c : Prop} [Decidable c] {a : β} {kind : IssueKind} :
    (if c then .good a else .fail kind : Checked β) = .good b ↔ c ∧ a = b := by
  by_cases hc : c <;> simp [hc, Checked.fail]

theorem le_of_atLeast {d : Datum} {least n : Nat} (h : atLeast least d = .good n) : least ≤ n := by
  obtain ⟨i, -, hi⟩ := andThen_eq_good.mp h
  obtain ⟨hle, rfl⟩ := ite_eq_good.mp hi
  omega

theorem zero_le_of_nonnegative {r : Reader Float} {d : Datum} {x : Float}
    (h : nonnegative r d = .good x) : 0.0 ≤ x := by
  obtain ⟨y, -, hy⟩ := andThen_eq_good.mp h
  obtain ⟨hle, rfl⟩ := ite_eq_good.mp hy
  exact hle

theorem pos_of_positive {r : Reader Float} {d : Datum} {x : Float}
    (h : positive r d = .good x) : 0.0 < x := by
  obtain ⟨y, -, hy⟩ := andThen_eq_good.mp h
  obtain ⟨hpos, rfl⟩ := ite_eq_good.mp hy
  exact hpos

theorem size_positive {d : Datum} {x : Float} (h : size d = .good (some x)) : 0.0 < x :=
  pos_of_positive (nullable_eq_good h)

/-- The field of a size. -/
theorem sizeField_positive {fs : Fields} {size : Option Float} {x : Float}
    (h : fieldOr fs "size_gb" none Check.size = .good size) (hx : size = some x) : 0.0 < x := by
  subst hx
  rcases fieldOr_eq_good h with hnone | ⟨d, hd⟩
  · cases hnone
  · exact size_positive hd

end Check

theorem VolumeOptions.check_positive {d : Datum} {o : VolumeOptions} {x : Float}
    (h : VolumeOptions.check d = .good o) (hx : o.sizeGb = some x) : 0.0 < x := by
  cases d with
  | record fs =>
    obtain ⟨f, location, hf, -, rfl⟩ := Check.seq_eq_good.mp h
    obtain ⟨g, size, hg, hsize, rfl⟩ := Check.seq_eq_good.mp hf
    obtain ⟨_, -, rfl⟩ := Check.map_eq_good.mp hg
    exact Check.sizeField_positive hsize hx
  | _ => cases h

theorem ZonedVolumeOptions.check_positive {d : Datum} {o : ZonedVolumeOptions} {x : Float}
    (h : ZonedVolumeOptions.check d = .good o) (hx : o.sizeGb = some x) : 0.0 < x := by
  cases d with
  | record fs =>
    obtain ⟨f, snapshot, hf, -, rfl⟩ := Check.seq_eq_good.mp h
    obtain ⟨g, zone, hg, -, rfl⟩ := Check.seq_eq_good.mp hf
    obtain ⟨k, location, hk, -, rfl⟩ := Check.seq_eq_good.mp hg
    obtain ⟨l, size, hl, hsize, rfl⟩ := Check.seq_eq_good.mp hk
    obtain ⟨_, -, rfl⟩ := Check.map_eq_good.mp hl
    exact Check.sizeField_positive hsize hx
  | _ => cases h

namespace Options

/-- The size that create options ask for. -/
def sizeGb? : Options → Option Float
  | volume o => o.sizeGb
  | zonedVolume o => o.sizeGb
  | _ => none

/-- Options that were read from data, as all options of a kind are. -/
def Valid (options : Options) : Prop := ∃ kind d, Options.check kind d = .good options

/-- **Valid options ask for more than nothing**, if they ask for a size. -/
theorem Valid.positive {options : Options} {x : Float} (h : options.Valid)
    (hx : options.sizeGb? = some x) : 0.0 < x := by
  obtain ⟨kind, d, hgood⟩ := h
  rw [check] at hgood
  split at hgood
  · obtain ⟨o, ho, rfl⟩ := Check.map_eq_good.mp hgood
    exact VolumeOptions.check_positive ho hx
  split at hgood
  · obtain ⟨o, ho, rfl⟩ := Check.map_eq_good.mp hgood
    exact ZonedVolumeOptions.check_positive ho hx
  -- the other kinds have no size
  iterate 4
    split at hgood
    · obtain ⟨o, -, rfl⟩ := Check.map_eq_good.mp hgood
      cases hx
  cases hgood
  cases hx

end Options

/-! ## Settings of waits -/

/-- A budget for at least one fetch, with pauses no shorter than nothing. -/
def PollBudget.Sound (b : PollBudget) : Prop := 1 ≤ b.maxAttempts ∧ 0.0 ≤ b.delay

/-- The two fields that a budget is read from. -/
theorem PollBudget.sound_of_fields {fs : Fields} {b : PollBudget}
    (hattempts : Check.fieldOr fs "max_attempts" 600 (Check.atLeast 1) = .good b.maxAttempts)
    (hdelay : Check.fieldOr fs "delay" 10.0 (Check.nonnegative Check.real) = .good b.delay) :
    b.Sound := by
  constructor
  · rcases Check.fieldOr_eq_good hattempts with hdefault | ⟨d, hd⟩
    · rw [hdefault]
      decide
    · exact Check.le_of_atLeast hd
  · rcases Check.fieldOr_eq_good hdelay with hdefault | ⟨d, hd⟩
    · rw [hdefault]
      decide
    · exact Check.zero_le_of_nonnegative hd

theorem PollBudget.check_sound {d : Datum} {b : PollBudget} (h : PollBudget.check d = .good b) :
    b.Sound := by
  cases d with
  | record fs =>
    obtain ⟨f, delay, hf, hdelay, rfl⟩ := Check.seq_eq_good.mp h
    obtain ⟨attempts, hattempts, rfl⟩ := Check.map_eq_good.mp hf
    exact PollBudget.sound_of_fields hattempts hdelay
  | _ => cases h

namespace PollSettings

/-- Settings that were read from data, as all settings are. -/
def Valid (settings : PollSettings) : Prop := ∃ fs, PollSettings.section.check fs = .good settings

theorem valid_default : Valid {} := ⟨[], rfl⟩

/-- **Valid settings give every operation a sound budget**, be it its own or the default one. -/
theorem Valid.budgetFor_sound {settings : PollSettings} (h : settings.Valid) (operation : String) :
    (settings.budgetFor operation).Sound := by
  obtain ⟨fs, hgood⟩ := h
  obtain ⟨f, overrides, hf, hoverrides, rfl⟩ := Check.seq_eq_good.mp hgood
  obtain ⟨g, delay, hg, hdelay, rfl⟩ := Check.seq_eq_good.mp hf
  obtain ⟨attempts, hattempts, rfl⟩ := Check.map_eq_good.mp hg
  cases hown : overrides.lookup operation with
  | none =>
    rw [budgetFor_of_lookup_none hown]
    exact PollBudget.sound_of_fields hattempts hdelay
  | some own =>
    rw [budgetFor_of_lookup hown]
    rcases Check.fieldOr_eq_good hoverrides with rfl | ⟨d, hd⟩
    · cases hown
    · obtain ⟨before, after, rfl, -⟩ := List.lookup_eq_some_iff.mp hown
      obtain ⟨d, hown⟩ := Check.mem_table hd (List.mem_append_cons_self)
      exact PollBudget.check_sound hown

end PollSettings

/-! ## Settings of a store -/

theorem Check.idPrefix_free {d : Datum} {start : String} (h : Check.idPrefix d = .good start) :
    Handle.separator ∉ start.toList := by
  obtain ⟨text, -, htext⟩ := Check.andThen_eq_good.mp h
  split at htext
  · cases htext
  · next hfree =>
    cases htext
    simpa using hfree

namespace StoreSettings

/-- Settings that were read from data, as all settings are. -/
def Valid (settings : StoreSettings) : Prop := ∃ fs, StoreSettings.section.check fs = .good settings

/-- **The prefixes of valid settings hold no separator.** -/
theorem Valid.prefixes_free {settings : StoreSettings} (h : settings.Valid) :
    Handle.separator ∉ settings.volumePrefix.toList ∧
      Handle.separator ∉ settings.snapshotPrefix.toList := by
  obtain ⟨fs, hgood⟩ := h
  obtain ⟨f, type, hf, -, rfl⟩ := Check.seq_eq_good.mp hgood
  obtain ⟨g, snapshot, hg, hsnapshot, rfl⟩ := Check.seq_eq_good.mp hf
  obtain ⟨volume, hvolume, rfl⟩ := Check.map_eq_good.mp hg
  constructor
  · rcases Check.fieldOr_eq_good hvolume with rfl | ⟨d, hd⟩
    · show Handle.separator ∉ "vol-".toList
      decide
    · exact Check.idPrefix_free hd
  · rcases Check.fieldOr_eq_good hsnapshot with rfl | ⟨d, hd⟩
    · show Handle.separator ∉ "snap-".toList
      decide
    · exact Check.idPrefix_free hd

end StoreSettings

end BlockStorage
