import BlockStorage.Leg

/-!
# Runs of a call

A call that pauses goes on at a time and from a remote side that it cannot know
beforehand: other calls may have gone on meanwhile. `Leg.Runs` lets both be
anything after each pause, so what holds of every run holds however the calls of a
world take their turns.

* `Leg.Runs`: the reports and the answer of a call in one run. `Leg.Rests`: and its pauses.
* `Leg.Runs.of_map`, `Leg.Runs.of_relabel`, `Leg.Runs.of_after`,
  `Leg.Runs.of_reporting`: the runs of a changed call are those of the call itself.
* `Leg.Reports`: what a call may report in some run.
-/

namespace BlockStorage.Leg

variable {ε ε' γ α β : Type}

/-- A run of a call to its end: all that it reports, and its answer. -/
inductive Runs : {pauses : Nat} → Leg ε γ α pauses → List ε → α → Prop
  | done {pauses : Nat} (s : Halt ε γ) (a : α) : Runs (done s a : Leg ε γ α pauses) s.trace a
  | paused {pauses : Nat} {s : Halt ε γ} {delay : Float} {next : Float → γ → Leg ε γ α pauses}
      {trace : List ε} {a : α} (now : Float) (remote : γ) (rest : Runs (next now remote) trace a) :
      Runs (paused s delay next) (s.trace ++ trace) a

/-- A call that does not pause has one run. -/
theorem Runs.of_done {pauses : Nat} {s : Halt ε γ} {a b : α} {trace : List ε}
    (h : (Leg.done s a : Leg ε γ α pauses).Runs trace b) : trace = s.trace ∧ b = a := by
  cases h
  exact ⟨rfl, rfl⟩

/-- Every call has a run. -/
theorem exists_runs {pauses : Nat} (leg : Leg ε γ α pauses) : ∃ trace a, leg.Runs trace a := by
  induction leg with
  | done s a => exact ⟨_, _, .done s a⟩
  | paused s delay next ih =>
    obtain ⟨trace, a, h⟩ := ih 0.0 s.remote
    exact ⟨_, _, .paused 0.0 s.remote h⟩

/-- A run of a call with the pauses that it makes. -/
inductive Rests :
    {pauses : Nat} → Leg ε γ α pauses → List Float → List ε → α → Prop
  | done {pauses : Nat} (s : Halt ε γ) (a : α) : Rests (done s a : Leg ε γ α pauses) [] s.trace a
  | paused {pauses : Nat} {s : Halt ε γ} {delay : Float} {next : Float → γ → Leg ε γ α pauses}
      {delays : List Float} {trace : List ε} {a : α} (now : Float) (remote : γ)
      (rest : Rests (next now remote) delays trace a) :
      Rests (paused s delay next) (delay :: delays) (s.trace ++ trace) a

theorem runs_iff_rests {pauses : Nat} {leg : Leg ε γ α pauses} {trace : List ε} {a : α} :
    leg.Runs trace a ↔ ∃ delays, leg.Rests delays trace a := by
  constructor
  · intro h
    induction h with
    | done s a => exact ⟨_, .done s a⟩
    | paused now remote _ ih =>
      obtain ⟨delays, h⟩ := ih
      exact ⟨_, .paused now remote h⟩
  · rintro ⟨delays, h⟩
    induction h with
    | done s a => exact .done s a
    | paused now remote _ ih => exact .paused now remote ih

/-! ## Changed calls -/

theorem Runs.of_map {pauses : Nat} {f : α → β} {leg : Leg ε γ α pauses} {trace : List ε} {b : β}
    (h : (leg.map f).Runs trace b) : ∃ a, leg.Runs trace a ∧ f a = b := by
  induction leg generalizing trace with
  | done s a =>
    rw [map] at h
    cases h
    exact ⟨a, .done s a, rfl⟩
  | paused s delay next ih =>
    rw [map] at h
    cases h with
    | paused now remote rest =>
      obtain ⟨a, ha, hb⟩ := ih now remote rest
      exact ⟨a, .paused now remote ha, hb⟩

theorem Runs.of_relabel {pauses : Nat} {f : ε → ε'} {leg : Leg ε γ α pauses} {trace : List ε'}
    {a : α} (h : (leg.relabel f).Runs trace a) : ∃ t, leg.Runs t a ∧ trace = t.map f := by
  induction leg generalizing trace with
  | done s a =>
    rw [relabel] at h
    cases h
    exact ⟨s.trace, .done s a, rfl⟩
  | paused s delay next ih =>
    rw [relabel] at h
    cases h with
    | paused now remote rest =>
      obtain ⟨t, ht, rfl⟩ := ih now remote rest
      exact ⟨s.trace ++ t, .paused now remote ht, (List.map_append).symm⟩

theorem Runs.of_after {pauses : Nat} {e : ε} {leg : Leg ε γ α pauses} {trace : List ε} {a : α}
    (h : (leg.after e).Runs trace a) : ∃ t, leg.Runs t a ∧ trace = e :: t := by
  cases leg with
  | done s a =>
    rw [after] at h
    cases h
    exact ⟨s.trace, .done s a, rfl⟩
  | paused s delay next =>
    rw [after] at h
    cases h with
    | paused now remote rest => exact ⟨_, .paused now remote rest, rfl⟩

theorem Runs.of_reporting {pauses : Nat} {f : α → ε} {leg : Leg ε γ α pauses} {trace : List ε}
    {a : α} (h : (leg.reporting f).Runs trace a) : ∃ t, leg.Runs t a ∧ trace = t ++ [f a] := by
  induction leg generalizing trace with
  | done s a =>
    rw [reporting] at h
    cases h
    exact ⟨s.trace, .done s a, rfl⟩
  | paused s delay next ih =>
    rw [reporting] at h
    cases h with
    | paused now remote rest =>
      obtain ⟨t, ht, rfl⟩ := ih now remote rest
      exact ⟨s.trace ++ t, .paused now remote ht, (List.append_assoc _ _ _).symm⟩

/-! ## What a call may report -/

/-- Whether a call reports something in some run. -/
def Reports {pauses : Nat} (leg : Leg ε γ α pauses) (e : ε) : Prop :=
  ∃ trace a, leg.Runs trace a ∧ e ∈ trace

theorem Runs.reports {pauses : Nat} {leg : Leg ε γ α pauses} {trace : List ε} {a : α}
    (h : leg.Runs trace a) {e : ε} (he : e ∈ trace) : leg.Reports e := ⟨trace, a, h, he⟩

theorem Reports.of_map {pauses : Nat} {f : α → β} {leg : Leg ε γ α pauses} {e : ε}
    (h : (leg.map f).Reports e) : leg.Reports e := by
  obtain ⟨trace, b, h, he⟩ := h
  obtain ⟨a, ha, -⟩ := h.of_map
  exact ha.reports he

/-- A call that pauses reports what it has done so far, and later whatever it may report then. -/
theorem reports_paused {pauses : Nat} {s : Halt ε γ} {delay : Float}
    {next : Float → γ → Leg ε γ α pauses} {e : ε} :
    (paused s delay next).Reports e ↔
      e ∈ s.trace ∨ ∃ now remote, (next now remote).Reports e := by
  constructor
  · rintro ⟨_, a, h, he⟩
    cases h with
    | paused now remote rest =>
      rcases List.mem_append.mp he with he | he
      · exact Or.inl he
      · exact Or.inr ⟨now, remote, rest.reports he⟩
  · rintro (he | ⟨now, remote, trace, a, h, he⟩)
    · obtain ⟨trace, a, h⟩ := exists_runs (next 0.0 s.remote)
      exact (Runs.paused 0.0 s.remote h).reports (List.mem_append_left _ he)
    · exact (Runs.paused now remote h).reports (List.mem_append_right _ he)

end BlockStorage.Leg
