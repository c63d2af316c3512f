import BlockStorage.Proofs.Wait.Meaning

/-!
# What a wait records

Two metrics tell how waits end: how often in which way, and after what time. Each
ending is recorded once in both, where it is one that the wait knows. A fetch may
also fail with something that the wait has no name for, such as a refusal by an
open circuit: that passes through, and the wait is lost from the metrics.

* `Wait.outcomes`: what events add to the two metrics.
* `Wait.recorded`: what should be added, by the answer and the time that it took.
* `Ending.lost`: whether a wait ended with a fault that it does not know.
* `Wait.run_recorded`: a wait records what it should exactly if it is not lost.
* `Wait.open_circuit_lost`: a wait that is lost.
-/

namespace BlockStorage

/-- Whether a sample is of the metrics that tell how waits end. -/
def Sample.ofOutcome (x : Sample) : Bool := x.metric = .pollResults || x.metric = .pollDuration

/-- How a wait ended, by its answer. -/
def WaitResult.of {α : Type} : Except Fault α → WaitResult
  | .ok _ => .satisfied
  | .error (.pollTimeout _ _ _) => .timeout
  | .error (.pollCancelled _ _) => .cancelled
  | .error (.notFound _ _) => .notFound
  | .error _ => .failed

/-- The faults of a fetch that a wait knows. -/
def Fault.known : Fault → Bool
  | notFound _ _ | pollCancelled _ _ | remoteFailure _ _ => true
  | _ => false

/-- Whether a wait ended with a fault that it does not know. -/
def Ending.lost {τ : Type} : Ending τ → Bool
  | .stopped why => !why.known
  | _ => false

namespace Wait

variable {τ ε γ : Type}

/-! ## Outcomes in the metrics -/

/-- What events add to the metrics that tell how waits end. -/
def outcomes (samples : ε → List Sample) (es : List ε) : List Sample :=
  (es.flatMap samples).filter Sample.ofOutcome

/-- What a wait adds that has answered after a time: one more end of this kind, and the time. -/
def recorded {α : Type} (w : Wait τ) (seconds : Float) (r : Except Fault α) : List Sample :=
  [⟨.pollResults, [w.condition, (WaitResult.of r).text], .add 1.0⟩,
    ⟨.pollDuration, [w.condition], .observe seconds⟩]

section

variable {samples : ε → List Sample} {report : WaitEvent → ε}

theorem outcomes_append (es fs : List ε) :
    outcomes samples (es ++ fs) = outcomes samples es ++ outcomes samples fs := by
  rw [outcomes, List.flatMap_append, List.filter_append]
  rfl

/-- Events that add nothing may be left out. -/
theorem outcomes_filter (es : List ε) :
    outcomes samples (es.filter fun e => (samples e).any Sample.ofOutcome) =
      outcomes samples es := by
  induction es with
  | nil => rfl
  | cons e es ih =>
    have hcons : outcomes samples (e :: es) = outcomes samples [e] ++ outcomes samples es :=
      outcomes_append [e] es
    rw [List.filter_cons]
    cases h : (samples e).any Sample.ofOutcome with
    | true =>
      rw [if_pos rfl, hcons, ← ih]
      exact outcomes_append [e] _
    | false =>
      have hnone : outcomes samples [e] = [] := by
        refine List.filter_eq_nil_iff.mpr fun x hx => ?_
        rw [List.flatMap_singleton] at hx
        exact List.any_eq_false.mp h x hx
      rw [if_neg Bool.false_ne_true, hcons, ih, hnone, List.nil_append]

theorem outcomes_report (hreport : ∀ e, samples (report e) = e.samples) (es : List WaitEvent) :
    outcomes samples (es.map report) = outcomes WaitEvent.samples es := by
  rw [outcomes, List.flatMap_map, funext hreport]
  rfl

/-- The looking adds to other metrics at most. -/
theorem ofOutcome_looking {e : WaitEvent} (h : e.isLooking = true) :
    e.samples.any Sample.ofOutcome = false := by
  cases e <;> first | rfl | cases h

end

/-! ## Endings -/

theorem result?_of_lost {ending : Ending τ} (h : ending.lost = true) : result? ending = none := by
  cases ending with
  | stopped why =>
    cases why <;> first | rfl | cases h
  | _ => cases h

variable [Viewed τ]

/-- What is recorded of an ending is told by the answer. -/
theorem result?_of_not_lost (w : Wait τ) (attempts : Nat) {ending : Ending τ}
    (h : ending.lost = false) : result? ending = some (.of (w.answer attempts ending)) := by
  cases ending with
  | stopped why =>
    cases why <;> first | rfl | cases h
  | _ => rfl

theorem report?_samples (w : Wait τ) (attempts : Nat) (ending : Ending τ) :
    ∀ e ∈ (w.report? attempts ending).toList, e.samples = [] := by
  unfold report?
  split
  · split <;> simp [WaitEvent.samples]
  all_goals simp [WaitEvent.samples]

/-- What is written down in the end records the wait, unless it is lost. -/
theorem outcomes_closing (w : Wait τ) (seconds : Float) (ending : Ending τ) (attempts : Nat) :
    outcomes WaitEvent.samples (w.closing seconds ending attempts) =
      if ending.lost then [] else w.recorded seconds (w.answer attempts ending) := by
  have hlogged : outcomes WaitEvent.samples (w.report? attempts ending).toList = [] := by
    rw [outcomes, List.flatMap_eq_nil_iff.mpr (w.report?_samples attempts ending)]
    rfl
  rw [closing, outcomes_append, hlogged, List.append_nil]
  cases h : ending.lost with
  | true => rw [result?_of_lost h]; rfl
  | false => rw [w.result?_of_not_lost attempts h]; rfl

/-! ## The whole wait -/

/-- **A wait records its outcome once, and the time that it took, unless it is lost**: that is,
unless its last fetch fails with a fault that is no missing resource, no cancellation and no failure
of the remote side. Then nothing is recorded. The outcome is told by the answer. -/
theorem run_recorded (w : Wait τ) {samples : ε → List Sample} {report : WaitEvent → ε}
    (hreport : ∀ e, samples (report e) = e.samples) {refresh : τ → Run (World ε γ) τ}
    {Fetched : τ → Except Fault τ → Prop}
    (hfetch : ∀ t, Does (fun e => (samples e).any Sample.ofOutcome) (refresh t).run
      fun es r => es = [] ∧ Fetched t r) (first : τ) (s : World ε γ) :
    let r := ((w.run report refresh first).run.run s).1
    let t := ((w.run report refresh first).run.run s).2
    ∃ own ending attempts, s.Grows own t ∧
      w.Course (fun t (es : List ε) r => es = [] ∧ Fetched t r) w.attempts.toNat 0 first [] ending
        attempts ∧
      r = w.answer attempts ending ∧
      outcomes samples own = if ending.lost then [] else w.recorded (t.now - s.now) r := by
  have hlooking : ∀ e : WaitEvent, e.isLooking = true →
      (samples (report e)).any Sample.ofOutcome = false := fun e he => by
    rw [hreport]
    exact ofOutcome_looking he
  obtain ⟨own, hgrows, hcourse⟩ : ∃ own,
      s.Grows own ((w.loop report refresh w.attempts.toNat 0 first).run s).2 ∧ _ :=
    does_loop w hlooking hfetch w.attempts.toNat 0 first s
  have hrun : (w.run report refresh first).run.run s = _ := run_run ..
  rw [conclude_run] at hrun
  rw [hrun]
  change w.Course _ _ _ _ _ ((w.loop report refresh w.attempts.toNat 0 first).run s).1.1
    ((w.loop report refresh w.attempts.toNat 0 first).run s).1.2 at hcourse
  generalize (w.loop report refresh w.attempts.toNat 0 first).run s = looked at hgrows hcourse
  obtain ⟨⟨ending, attempts⟩, u⟩ := looked
  -- What is added before the end is added to other metrics.
  have hquiet : own.filter (fun e => (samples e).any Sample.ofOutcome) = [] :=
    List.eq_nil_iff_forall_not_mem.mpr
      (hcourse.forall_mem fun _ _ _ hes e he => absurd (hes.1 ▸ he) List.not_mem_nil)
  rw [hquiet] at hcourse
  refine ⟨_, ending, attempts, hgrows.trans (u.grows_noteAll _), hcourse, rfl, ?_⟩
  rw [outcomes_append, ← outcomes_filter own, hquiet, outcomes_report hreport, outcomes_closing]
  rfl

/-! ## Two waits -/

namespace Sought

/-- A wait for a new volume, as it begins. -/
def wait : Wait String := ⟨"volume_available", 3, 0, (· = "available"), (· = "error"), false⟩

def start : World WaitEvent Unit := { remote := () }

/-- The wait when every fetch fails. -/
def failing (f : Fault) : Except Fault (Option String) × World WaitEvent Unit :=
  (wait.run id (fun _ => throw f) "creating").run.run start

/-- A volume that is gone is recorded as not found. -/
theorem missing_recorded :
    let f : Fault := .notFound "us-east-1/vol-1" none
    (∀ e : WaitEvent, WaitEvent.samples (id e) = e.samples) ∧
      (∀ _ : String, Does (γ := Unit) (fun e : WaitEvent => e.samples.any Sample.ofOutcome)
        (throw f : Run (World WaitEvent Unit) String).run fun es r => es = [] ∧ r = .error f) ∧
      (failing f).1 = .error f ∧
      ∃ own, start.Grows own (failing f).2 ∧ outcomes WaitEvent.samples own =
        [⟨.pollResults, ["volume_available", "not_found"], .add 1.0⟩,
          ⟨.pollDuration, ["volume_available"], .observe ((failing f).2.now - start.now)⟩] := by
  intro f
  have hfetch : ∀ _ : String, Does (γ := Unit) (fun e => e.samples.any Sample.ofOutcome)
      (throw f : Run (World WaitEvent Unit) String).run fun es r => es = [] ∧ r = .error f :=
    fun _ => .run_throw f ⟨rfl, rfl⟩
  have hanswer : (failing f).1 = .error f := rfl
  obtain ⟨own, ending, attempts, hgrows, -, hr, houtcomes⟩ :=
    run_recorded wait (fun _ => rfl) hfetch "creating" start
  refine ⟨fun _ => rfl, hfetch, hanswer, own, hgrows, houtcomes.trans ?_⟩
  have hknown : ending.lost = false := by
    cases ending with
    | stopped why =>
      obtain rfl := Except.error.inj (hanswer.symm.trans hr)
      rfl
    | _ => rfl
  rw [hknown]
  rfl

/-- A wait whose fetch an open circuit refuses is lost: it fails, and neither metric tells of it. -/
theorem open_circuit_lost :
    let f : Fault := .circuitOpen "ec2" (.real 5.0)
    (failing f).1 = .error f ∧ outcomes WaitEvent.samples (failing f).2.journal = [] ∧
      ∀ seconds, outcomes WaitEvent.samples (failing f).2.journal ≠
        wait.recorded seconds (failing f).1 := by
  intro f
  have hnone : outcomes WaitEvent.samples (failing f).2.journal = [] := rfl
  refine ⟨rfl, hnone, fun seconds => ?_⟩
  rw [hnone]
  exact List.cons_ne_nil _ _ |>.symm

end Sought

end Wait

end BlockStorage
