import BlockStorage.Proofs.Breaker.Counting
import Mathlib.Data.List.Perm.Subperm

/-!
# Who vouches for a provider

A half-open circuit closes when calls enough have ended well. It does not ask when they
were admitted: a call keeps no record of the state in which it found the circuit, so one
that has been underway since before the outage vouches for the provider like a probe
does. What holds is that every success is that of a call of its own, and only calls that
were underway when the circuit half-opened can take the place of probes.

* `Traffic.vouchers`: the calls that end well at a half-open circuit.
* `Traffic.Accounted.step`: no call ends that has not been admitted, or ends twice.
* `Traffic.Vouched.step`: a half-open circuit has not counted more than its vouchers.
* `Traffic.recovery_vouched`: what lies between an outage and the recovery.
* `Traffic.latecomer_recovers`: a circuit that a call from before the outage closes.
-/

namespace BlockStorage

namespace Traffic

namespace Step

/-- Whether a call is let through at the moment. -/
def admits (x : Step) : Bool :=
  match x.moment.what, (x.before.breaker.arrive x.moment.now).1 with
  | .arrives, .passed => true
  | _, _ => false

/-- Whether a call ends well at the moment, and finds the circuit half-open. -/
def vouches (x : Step) : Bool := x.before.breaker.state = .halfOpen ∧ x.succeeds = true

/-- A moment lets one call through, or ends one that is underway, or does neither. -/
theorem underway_cases (x : Step) :
    (x.admits = true ∧ x.vouches = false ∧
        x.after.underway = x.moment.call :: x.before.underway) ∨
      (x.admits = false ∧ x.moment.call ∈ x.before.underway ∧
        x.after.underway = x.before.underway.erase x.moment.call) ∨
      (x.admits = false ∧ x.vouches = false ∧ x.after.underway = x.before.underway) := by
  obtain ⟨s, ⟨now, call, what⟩⟩ := x
  cases what with
  | arrives =>
    cases harrive : s.breaker.arrive now with
    | mk arrival rest =>
      cases arrival with
      | passed => simp [admits, vouches, succeeds, completion?, after, Traffic.after, harrive]
      | rejected => simp [admits, vouches, succeeds, completion?, after, Traffic.after, harrive]
  | settles fault =>
    by_cases hmem : call ∈ s.underway
    · simp [admits, after, Traffic.after, hmem]
    · simp [admits, vouches, succeeds, completion?, after, Traffic.after, hmem]

end Step

/-! ## Calls of a run -/

/-- The calls that are let through. -/
def admitted (xs : List Step) : List Nat := (xs.filter Step.admits).map (·.moment.call)

/-- The calls that end well at a half-open circuit. -/
def vouchers (xs : List Step) : List Nat := (xs.filter Step.vouches).map (·.moment.call)

theorem admitted_concat (xs : List Step) (x : Step) :
    admitted (xs ++ [x]) = admitted xs ++ if x.admits then [x.moment.call] else [] := by
  rw [admitted, List.filter_append, List.map_append]
  cases h : x.admits <;> simp [admitted, h]

theorem vouchers_concat (xs : List Step) (x : Step) :
    vouchers (xs ++ [x]) = vouchers xs ++ if x.vouches then [x.moment.call] else [] := by
  rw [vouchers, List.filter_append, List.map_append]
  cases h : x.vouches <;> simp [vouchers, h]

/-- Every call that has vouched, and every call that is underway, is one of those that were underway
at first or were let through since. -/
def Accounted (first : List Nat) (s : Traffic) (xs : List Step) : Prop :=
  (vouchers xs ++ s.underway).Subperm (first ++ admitted xs)

theorem Accounted.step {first : List Nat} {xs : List Step} {x : Step}
    (h : Accounted first x.before xs) : Accounted first x.after (xs ++ [x]) := by
  rw [Accounted, admitted_concat, vouchers_concat]
  obtain ⟨hadmits, hvouches, hunderway⟩ | ⟨hadmits, hmem, hunderway⟩ |
    ⟨hadmits, hvouches, hunderway⟩ := x.underway_cases
  · rw [hadmits, hvouches, hunderway, if_pos rfl, if_neg Bool.false_ne_true, List.append_nil,
      ← List.append_assoc]
    have hcons : (x.moment.call :: (vouchers xs ++ x.before.underway)).Subperm
        (x.moment.call :: (first ++ admitted xs)) := (List.subperm_cons _).mpr h
    exact (List.perm_middle.subperm.trans hcons).trans (List.perm_append_singleton _ _).symm.subperm
  · rw [hadmits, hunderway, if_neg Bool.false_ne_true, List.append_nil]
    refine List.Subperm.trans ?_ h
    cases x.vouches with
    | true =>
      rw [if_pos rfl, List.append_assoc, List.singleton_append]
      exact ((List.perm_cons_erase hmem).symm.append_left _).subperm
    | false =>
      rw [if_neg Bool.false_ne_true, List.append_nil]
      exact ((List.erase_sublist.append_left _)).subperm
  · rwa [hadmits, hvouches, hunderway, if_neg Bool.false_ne_true, List.append_nil, List.append_nil]

theorem run_accounted (s : Traffic) (ms : List Moment) :
    Accounted s.underway (s.run ms) (s.steps ms) :=
  steps_induction (P := Accounted s.underway)
    (by simp [Accounted, vouchers, admitted, List.Subperm.refl]) (fun _ _ h => h.step) ms

/-! ## Counts of a run -/

/-- A half-open circuit has not counted more successes than calls have vouched for. -/
def Vouched (s : Traffic) (xs : List Step) : Prop :=
  s.breaker.state = .halfOpen → s.breaker.successes ≤ (vouchers xs).length

theorem Vouched.step {xs : List Step} {x : Step} (h : Vouched x.before xs) :
    Vouched x.after (xs ++ [x]) := by
  intro hstate
  rw [vouchers_concat, List.length_append, Step.vouches, Step.succeeds]
  have hmove := x.move
  unfold Vouched at h
  generalize x.completion? = completion at hmove
  generalize x.before.breaker = b at *
  generalize x.after.breaker = b' at *
  cases hmove with
  | stays => exact Nat.le_add_right_of_le (h hstate)
  | probes => exact Nat.zero_le _
  | confirms hhalf =>
    rw [if_pos (by simp [hhalf])]
    exact Nat.add_le_add_right (h hhalf) 1
  | recovers => cases hstate
  | calms hother => exact absurd hstate hother
  | trips => cases hstate
  | strains hbelow => exact absurd (.inl hstate) hbelow

theorem run_vouched {s : Traffic} (h : s.breaker.state = .opened) (ms : List Moment) :
    Vouched (s.run ms) (s.steps ms) :=
  steps_induction (P := Vouched) (fun hhalf => nomatch h.symm.trans hhalf) (fun _ _ h => h.step) ms

/-! ## Recovery -/

/-- What the moments of a run have to do with the recovery of a circuit that was open before. -/
structure Recovery (s : Traffic) (ms : List Moment) : Prop where
  /-- Calls enough have ended well while the circuit was half-open. -/
  enough : s.breaker.successThreshold ≤ (vouchers (s.steps ms)).length
  distinct : (vouchers (s.steps ms)).Nodup
  known : ∀ c ∈ vouchers (s.steps ms), c ∈ admitted (s.steps ms) ∨ c ∈ s.underway
  /-- At most as many of them are no probes as were underway. -/
  probes : s.breaker.successThreshold ≤
    ((vouchers (s.steps ms)).filter (· ∈ admitted (s.steps ms))).length + s.underway.length

/-- Two lists cover a third that has nothing twice, so what is not from the one is from the
other. -/
theorem length_le_filter_add {cs as bs : List Nat} (hnodup : cs.Nodup)
    (hknown : ∀ c ∈ cs, c ∈ as ∨ c ∈ bs) : cs.length ≤ (cs.filter (· ∈ as)).length + bs.length := by
  rw [List.length_eq_length_filter_add (· ∈ as)]
  refine Nat.add_le_add_left ((hnodup.filter _).subperm fun c hc => ?_).length_le _
  obtain ⟨hmem, hnot⟩ := List.mem_filter.mp hc
  exact (hknown c hmem).resolve_left (by simpa using hnot)

/-- A circuit that closes has successes enough, each with its voucher. -/
theorem run_enough {s : Traffic} {ms : List Moment} {closing : Moment}
    (hopen : s.breaker.state = .opened) (hhalf : (s.run ms).breaker.state = .halfOpen)
    (hclosed : (s.run (ms ++ [closing])).breaker.state = .closed) :
    s.breaker.successThreshold ≤ (vouchers (s.steps (ms ++ [closing]))).length := by
  have hcount := run_vouched hopen ms hhalf
  have hmove := Step.move ⟨s.run ms, closing⟩
  rw [steps_append, steps, steps, vouchers_concat, List.length_append, Step.vouches, Step.succeeds,
    ← (run_thresholds s ms).2]
  rw [run_append] at hclosed
  change (Step.after ⟨s.run ms, closing⟩).breaker.state = .closed at hclosed
  generalize Step.completion? ⟨s.run ms, closing⟩ = completion at hmove
  generalize (Step.after ⟨s.run ms, closing⟩).breaker = b' at *
  dsimp only at hmove ⊢
  generalize (s.run ms).breaker = b at *
  cases hmove with
  | recovers _ hreached =>
    rw [if_pos (by simp [hhalf])]
    exact hreached.trans (Int.ofNat_le.mpr (Nat.add_le_add_right hcount 1))
  | stays => cases hhalf.symm.trans hclosed
  | probes => cases hclosed
  | confirms => cases hhalf.symm.trans hclosed
  | calms hother => exact absurd hhalf hother
  | trips => cases hclosed
  | strains => cases hhalf.symm.trans hclosed

/-- **When a circuit that was open comes to close, the calls that closed it were probes, except for
those that were underway before.** -/
theorem recovery_vouched {s : Traffic} {ms : List Moment} {closing : Moment}
    (hopen : s.breaker.state = .opened) (hhalf : (s.run ms).breaker.state = .halfOpen)
    (hclosed : (s.run (ms ++ [closing])).breaker.state = .closed)
    (hown : (s.underway ++ admitted (s.steps (ms ++ [closing]))).Nodup) :
    s.Recovery (ms ++ [closing]) := by
  have haccounted := s.run_accounted (ms ++ [closing])
  have hdistinct : (vouchers (s.steps (ms ++ [closing]))).Nodup := by
    obtain ⟨cs, hperm, hsub⟩ := haccounted
    exact (List.nodup_append.mp (hperm.nodup_iff.mp (hown.sublist hsub))).1
  have hknown : ∀ c ∈ vouchers (s.steps (ms ++ [closing])),
      c ∈ admitted (s.steps (ms ++ [closing])) ∨ c ∈ s.underway := fun c hc =>
    (List.mem_append.mp (haccounted.subset (List.mem_append_left _ hc))).symm
  have henough := run_enough hopen hhalf hclosed
  refine ⟨henough, hdistinct, hknown, ?_⟩
  have hcovered := length_le_filter_add hdistinct hknown
  omega

/-- A circuit that one failure opens for ten seconds and one success closes. Of two calls the second
has failed and the first is underway. -/
def outage : Traffic :=
  run { breaker := { failureThreshold := 1, successThreshold := 1, timeout := 10.0 } }
    [⟨0.0, 0, .arrives⟩, ⟨0.0, 1, .arrives⟩, ⟨0.0, 1, .settles (some (.transport .noRegion))⟩]

/-- A call that comes when the ten seconds are over. -/
def probing : Moment := ⟨10.0, 2, .arrives⟩

theorem outage_recovery_vouched :
    (outage.breaker.state = .opened ∧ (outage.run [probing]).breaker.state = .halfOpen ∧
      (outage.run ([probing] ++ [⟨11.0, 2, .settles none⟩])).breaker.state = .closed ∧
      (outage.underway ++
        admitted (outage.steps ([probing] ++ [⟨11.0, 2, .settles none⟩]))).Nodup) ∧
    (1 : Int) ≤ (vouchers (outage.steps ([probing] ++ [⟨11.0, 2, .settles none⟩]))).length := by
  have hopen : outage.breaker.state = .opened := by decide
  have hhalf : (outage.run [probing]).breaker.state = .halfOpen := by decide
  have hclosed :
      (outage.run ([probing] ++ [⟨11.0, 2, .settles none⟩])).breaker.state = .closed := by decide
  have hown : (outage.underway ++
      admitted (outage.steps ([probing] ++ [⟨11.0, 2, .settles none⟩]))).Nodup := by
    decide +kernel
  exact ⟨⟨hopen, hhalf, hclosed, hown⟩, (recovery_vouched hopen hhalf hclosed hown).enough⟩

/-- The first call ends well at last and closes the circuit, and no call from after the outage has
ended. -/
theorem latecomer_recovers :
    outage.breaker.state = .opened ∧ (outage.after probing).breaker.state = .halfOpen ∧
      (outage.run [probing, ⟨10.0, 0, .settles none⟩]).breaker.state = .closed ∧
      ¬ outage.breaker.successThreshold ≤
        ((outage.steps [probing, ⟨10.0, 0, .settles none⟩]).filter fun x => x.succeeds = true ∧
          x.moment.call ∈ admitted (outage.steps [probing, ⟨10.0, 0, .settles none⟩])).length := by
  decide +kernel

end Traffic

end BlockStorage
