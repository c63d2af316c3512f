import BlockStorage.Proofs.Wait
import Mathlib.Logic.ExistsUnique

/-!
# The meaning of a wait

Where nothing can cut it short, a wait is a number of rounds, each of them one sleep
and one fetch of the state anew. There are as many as it takes until a state decides
or a fetch fails, but no more than the budget allows. What was found then says what
the wait answers.

* `Wait.rounds`: so many rounds from a first state. `Wait.within_round_run`: how long
  each of them sleeps.
* `Wait.Verdict`: what a wait answers after its last round.
* `Wait.Means`: how many rounds a wait makes, and what comes of them.
* `Wait.run_means`: every wait has this meaning.
-/

namespace BlockStorage

namespace World

variable {ε γ α : Type} {s : World ε γ}

theorem noteAll_append (es fs : List ε) (s : World ε γ) :
    s.noteAll (es ++ fs) = (s.noteAll es).noteAll fs := by
  rw [noteAll, noteAll, noteAll, List.append_assoc]

theorem noteAll_toList (e? : Option ε) (s : World ε γ) :
    s.noteAll e?.toList = match e? with
      | some e => s.note e
      | none => s := by
  cases e? with
  | some e => rfl
  | none => rw [Option.toList_none, noteAll, List.append_nil]

/-! ### Worlds without a cancel event -/

theorem haltedBy_cancel (h : s.cancel = .absent) (halt : Halt ε γ) :
    (s.haltedBy halt).cancel = .absent := by
  show (if halt.cancels then s.cancel.setAt s.now else s.cancel) = .absent
  rw [h]
  split <;> rfl

theorem rest_cancel (s : World ε γ) (call : Nat) (delay : Float) (again : Nat) :
    (s.rest call delay again).cancel = s.cancel := by
  rw [rest]
  split <;> rfl

theorem resume_cancel (h : s.cancel = .absent) (p : Pending ε γ α) :
    (s.resume p).2.cancel = .absent := by
  obtain ⟨number, pauses, next⟩ := p
  cases hleg : next s.now s.remote with
  | done halt a =>
    simp only [resume, hleg]
    exact haltedBy_cancel h halt
  | paused halt delay next =>
    simp only [resume, hleg]
    rw [rest_cancel]
    exact haltedBy_cancel h halt

theorem resumeStray?_cancel (h : s.cancel = .absent) {number : Nat} {t : World ε γ}
    (ht : s.resumeStray? number = some t) : t.cancel = .absent := by
  obtain ⟨⟨p, others⟩, -, hp⟩ := Option.map_eq_some_iff.mp ht
  have hafter := resume_cancel h p
  dsimp only at hp
  generalize s.resume p = after at hp hafter
  obtain ⟨p | a, t'⟩ := after
  · subst hp
    exact hafter
  · subst hp
    exact hafter

theorem untilTurn_cancel (h : s.cancel = .absent) (turns : Nat) :
    (untilTurn turns s).cancel = .absent := by
  induction turns generalizing s with
  | zero => exact h
  | succ turns ih =>
    rw [untilTurn]
    split
    · exact h
    · next t _ =>
      have hturn : (s.atTurn t).cancel = .absent := h
      dsimp only
      split
      · next u hu => exact ih (resumeStray?_cancel hturn hu)
      · exact hturn

/-- No pause brings a cancel event about. -/
theorem pause_cancel (h : s.cancel = .absent) (delay : Float) (again : Nat) :
    (s.pause delay again).cancel = .absent :=
  untilTurn_cancel ((rest_cancel ..).trans h) _

end World

/-! ## Runs -/

namespace StateM

variable {ω α β : Type}

theorem run_bind (step : StateM ω α) (next : α → StateM ω β) (s : ω) :
    (step >>= next).run s = (next (step.run s).1).run (step.run s).2 := rfl

theorem run_modify (f : ω → ω) (s : ω) : (modify f : StateM ω PUnit).run s = (⟨⟩, f s) := rfl

/-- A change that is made only where something holds, before other steps. -/
theorem run_ite_modify {c : Prop} [Decidable c] (f : ω → ω) (rest : StateM ω α) (s : ω) :
    (if c then modify f >>= fun _ => rest else rest).run s = rest.run (if c then f s else s) := by
  split <;> rfl

end StateM

namespace Run

variable {ω α β : Type}

/-- What a step does and what follows it: after a failure nothing follows. -/
theorem run_bind (step : Run ω α) (next : α → Run ω β) (s : ω) :
    (step >>= next).run.run s = match step.run.run s with
      | (.ok a, t) => (next a).run.run t
      | (.error f, t) => (.error f, t) := by
  change (step.run >>= ExceptT.bindCont next).run s = _
  rw [StateT.run_bind]
  generalize step.run.run s = done
  obtain ⟨r, t⟩ := done
  cases r <;> rfl

end Run

/-- Whether an event is part of a round. -/
def WaitEvent.isRound : WaitEvent → Bool
  | .slept _ | .refreshing _ => true
  | _ => false

namespace Wait

variable {τ ε γ : Type}

/-! ## Rounds -/

section Rounds

variable (w : Wait τ) (report : WaitEvent → ε) (refresh : τ → Run (World ε γ) τ)

/-- One round: a sleep, and a fetch of the state anew. -/
def round (last : τ) : Run (World ε γ) τ := do
  modify fun s => (s.note (report (.slept w.delay))).pause w.delay 0
  modify (World.note (report (.refreshing w.condition)))
  refresh last

/-- So many rounds, each from the state that the one before has found. A fetch that fails ends
them. -/
def rounds : Nat → τ → Run (World ε γ) τ
  | 0, last => return last
  | n + 1, last => do rounds n (← w.round report refresh last)

/-- The world that the first of so many rounds finds: that a wait has begun is said before it. -/
def begun (rounds : Nat) (s : World ε γ) : World ε γ :=
  if rounds = 0 then s else s.note (report (.started w.condition w.attempts w.delay))

end Rounds

section Runs

variable {w : Wait τ} {report : WaitEvent → ε} {refresh : τ → Run (World ε γ) τ}

theorem round_run (last : τ) (s : World ε γ) :
    (w.round report refresh last).run.run s = (refresh last).run.run
      (((s.note (report (.slept w.delay))).pause w.delay 0).note
        (report (.refreshing w.condition))) := rfl

/-- A round of a wait within a budget: it sleeps as long as is asked for, or else as the operation's
budget says. -/
theorem within_round_run (settings : PollSettings) (operation : String) (attempts : Option Int)
    (delay : Option Float) (last : τ) (s : World ε γ) :
    let seconds := delay.getD (settings.budgetFor operation).delay
    ((w.within settings operation attempts delay).round report refresh last).run.run s =
      (refresh last).run.run (((s.note (report (.slept seconds))).pause seconds 0).note
        (report (.refreshing w.condition))) := by
  intro seconds
  rw [round_run, within_delay, within_condition]

theorem rounds_succ (n : Nat) (last : τ) (s : World ε γ) :
    (w.rounds report refresh (n + 1) last).run.run s =
      match (w.round report refresh last).run.run s with
      | (.ok state, t) => (w.rounds report refresh n state).run.run t
      | (.error f, t) => (.error f, t) := by
  rw [rounds, Run.run_bind]
  generalize (w.round report refresh last).run.run s = done
  obtain ⟨r, t⟩ := done
  cases r <;> rfl

theorem round_cancel (w : Wait τ) (report : WaitEvent → ε)
    (hrefresh : ∀ t (u : World ε γ), u.cancel = .absent →
      ((refresh t).run.run u).2.cancel = .absent)
    (last : τ) {s : World ε γ} (h : s.cancel = .absent) :
    ((w.round report refresh last).run.run s).2.cancel = .absent := by
  rw [round_run]
  exact hrefresh last _ (World.pause_cancel (s := s.note _) h w.delay 0)

theorem begun_zero (s : World ε γ) : w.begun report 0 s = s := rfl

theorem begun_succ (i : Nat) (s : World ε γ) : w.begun report (i + 1) s = w.begun report 1 s := rfl

theorem begun_cancel {s : World ε γ} (h : s.cancel = .absent) (i : Nat) :
    (w.begun report i s).cancel = .absent := by
  rw [begun]
  split <;> exact h

end Runs

/-! ## The meaning -/

section Means

variable [Viewed τ]

/-- What a wait within a budget answers after its last round, by what this one found. A state that
counts as failed is not asked whether it is ready. -/
inductive Verdict (w : Wait τ) (budget : Nat) :
    (rounds : Nat) → Except Fault τ → Except Fault (Option τ) → Prop
  | failed {i : Nat} {last : τ} (h : w.failed last = true) :
      Verdict w budget i (.ok last) (.error (.remoteFailure
        (w.condition ++ ": resource entered a failed state: " ++ (Viewed.view last).shown)
        "failed"))
  | ready {i : Nat} {last : τ} (hf : w.failed last = false) (h : w.ready last = true) :
      Verdict w budget i (.ok last) (.ok (some last))
  | gone {i : Nat} {f : Fault} (h : f.isNotFound = true ∧ w.goneIsReady = true) :
      Verdict w budget i (.error f) (.ok none)
  | raised {i : Nat} {f : Fault} (h : ¬ (f.isNotFound = true ∧ w.goneIsReady = true)) :
      Verdict w budget i (.error f) (.error f)
  | exhausted {last : τ} (h : w.Undecided last) :
      Verdict w budget budget (.ok last)
        (.error (.pollTimeout w.condition budget (Viewed.view last)))

/-- With `left` rounds to go and `used` done, from a state and a world on: `i` rounds are as many as
it takes until it is decided, but no more than there are, and then comes this answer. -/
structure Means (w : Wait τ) (report : WaitEvent → ε) (refresh : τ → Run (World ε γ) τ)
    (left used : Nat) (last : τ) (s : World ε γ) (i : Nat) (r : Except Fault (Option τ)) :
    Prop where
  bound : i ≤ left
  undecided : ∀ j < i, ∃ state,
    ((w.rounds report refresh j last).run.run s).1 = .ok state ∧ w.Undecided state
  verdict : w.Verdict (used + left) (used + i) ((w.rounds report refresh i last).run.run s).1 r

variable {w : Wait τ} {report : WaitEvent → ε} {refresh : τ → Run (World ε γ) τ} {left used i : Nat}
  {last : τ} {s t : World ε γ} {r : Except Fault (Option τ)}

namespace Means

theorem stay (h : w.Verdict (used + left) used (.ok last) r) :
    w.Means report refresh left used last s 0 r :=
  ⟨Nat.zero_le _, fun _ hj => absurd hj (Nat.not_lt_zero _), h⟩

theorem broken (hopen : w.Undecided last) {f : Fault}
    (hround : (w.round report refresh last).run.run s = (.error f, t))
    (h : w.Verdict (used + (left + 1)) (used + 1) (.error f) r) :
    w.Means report refresh (left + 1) used last s 1 r where
  bound := Nat.succ_le_succ (Nat.zero_le _)
  undecided j hj := by
    obtain rfl : j = 0 := Nat.lt_one_iff.mp hj
    exact ⟨last, rfl, hopen⟩
  verdict := by rwa [rounds_succ, hround]

theorem step (hopen : w.Undecided last) {state : τ}
    (hround : (w.round report refresh last).run.run s = (.ok state, t))
    (h : w.Means report refresh left (used + 1) state t i r) :
    w.Means report refresh (left + 1) used last s (i + 1) r where
  bound := Nat.succ_le_succ h.bound
  undecided j hj := by
    cases j with
    | zero => exact ⟨last, rfl, hopen⟩
    | succ j =>
      rw [rounds_succ, hround]
      exact h.undecided j (Nat.lt_of_succ_lt_succ hj)
  verdict := by
    have hverdict := h.verdict
    rw [Nat.add_right_comm used 1 left, Nat.add_right_comm used 1 i] at hverdict
    rwa [rounds_succ, hround]

/-- As long as it is undecided, there is a next round. -/
theorem eq_of_undecided (h : w.Means report refresh left used last s i r) {state : τ}
    (hstate : ((w.rounds report refresh i last).run.run s).1 = .ok state)
    (hopen : w.Undecided state) : i = left := by
  have hverdict := h.verdict
  rw [hstate] at hverdict
  generalize hrounds : used + i = rounds at hverdict
  cases hverdict with
  | failed hf => exact absurd (hopen.1.symm.trans hf) Bool.false_ne_true
  | ready _ hr => exact absurd (hopen.2.symm.trans hr) Bool.false_ne_true
  | exhausted _ => exact Nat.add_left_cancel hrounds

/-- Where fewer rounds decide, there are no more. Whether the wait has said that it begins makes no
difference before the first of them. -/
theorem le {i' : Nat} {r' : Except Fault (Option τ)}
    (h : w.Means report refresh left used last (w.begun report i s) i r)
    (h' : w.Means report refresh left used last (w.begun report i' s) i' r') : i ≤ i' := by
  refine Nat.le_of_not_lt fun hlt => ?_
  obtain ⟨state, hstate, hopen⟩ := h.undecided i' hlt
  have hstate' :
      ((w.rounds report refresh i' last).run.run (w.begun report i' s)).1 = .ok state := by
    cases i' with
    | zero => exact hstate
    | succ i' =>
      obtain ⟨i, rfl⟩ := Nat.exists_eq_add_of_lt hlt
      exact hstate
  have hbound := h.bound
  have hall := h'.eq_of_undecided hstate' hopen
  omega

end Means

/-! ## The loop -/

theorem pause_run (h : s.cancel = .absent) (delay : Float) :
    (pause report delay).run s = (false, (s.note (report (.slept delay))).pause delay 0) := by
  show pause report delay s = _
  rw [pause, h]

theorem loop_failed (h : w.failed last = true) :
    (w.loop report refresh left used last).run s = ((.failedState last, used), s) := by
  cases left <;> rw [loop, if_pos h] <;> rfl

theorem loop_ready (hf : ¬ w.failed last = true) (h : w.ready last = true) :
    (w.loop report refresh left used last).run s = ((.ready last, used), s) := by
  cases left <;> rw [loop, if_neg hf, if_pos h] <;> rfl

theorem loop_zero (h : w.Undecided last) :
    (w.loop report refresh 0 used last).run s = ((.exhausted last, used), s) := by
  rw [loop, if_neg (by simp [h.1]), if_neg (by simp [h.2])]
  rfl

/-- A look that decides, or for which there is no round left, is the last one. -/
theorem loop_stop (w : Wait τ) (report : WaitEvent → ε) (refresh : τ → Run (World ε γ) τ)
    (used : Nat) (hstop : left = 0 ∨ ¬ w.Undecided last) :
    ∃ ending, w.Verdict (used + left) used (.ok last) (w.answer used ending) ∧
      ∀ s, (w.loop report refresh left used last).run s = ((ending, used), s) := by
  by_cases hf : w.failed last = true
  · exact ⟨.failedState last, .failed hf, fun _ => loop_failed hf⟩
  · by_cases hr : w.ready last = true
    · exact ⟨.ready last, .ready (by simpa using hf) hr, fun _ => loop_ready hf hr⟩
    · have hopen : w.Undecided last := ⟨by simpa using hf, by simpa using hr⟩
      obtain rfl := hstop.resolve_right (not_not_intro hopen)
      exact ⟨.exhausted last, .exhausted hopen, fun _ => loop_zero hopen⟩

/-- A look that leaves it open is followed by a pause, and by a fetch unless the pause is cut
short. -/
theorem loop_pause (report : WaitEvent → ε) (refresh : τ → Run (World ε γ) τ)
    (hopen : w.Undecided last) (left used : Nat) (s : World ε γ) :
    (w.loop report refresh (left + 1) used last).run s =
      match (pause report w.delay).run (if used = 0 then w.begun report 1 s else s) with
      | (true, t) => ((.stopped (.pollCancelled w.condition (Viewed.view last)), used), t)
      | (false, t) =>
        match (refresh last).run.run (t.note (report (.refreshing w.condition))) with
        | (.ok state, u) => (w.loop report refresh left (used + 1) state).run u
        | (.error f, u) =>
          ((if f.isNotFound && w.goneIsReady then .gone else .stopped f, used + 1), u) := by
  rw [loop, if_neg (by simp [hopen.1]), if_neg (by simp [hopen.2])]
  refine (StateM.run_ite_modify _ _ s).trans ?_
  change StateT.run _ (if used = 0 then w.begun report 1 s else s) = _
  generalize (if used = 0 then w.begun report 1 s else s) = u
  rw [StateM.run_bind]
  generalize (pause report w.delay).run u = paused
  obtain ⟨cut, t⟩ := paused
  cases cut with
  | true => rfl
  | false =>
    rw [if_neg Bool.false_ne_true, StateM.run_bind, StateM.run_modify, StateM.run_bind]
    dsimp only [ExceptT.run]
    generalize StateT.run (refresh last) _ = fetched
    obtain ⟨r, t⟩ := fetched
    cases r with
    | ok state => rfl
    | error f =>
      dsimp only
      split <;> rfl

/-- A look that leaves it open is followed by a round. -/
theorem loop_succ (report : WaitEvent → ε) (refresh : τ → Run (World ε γ) τ)
    (hopen : w.Undecided last) (h : s.cancel = .absent) (left used : Nat) :
    (w.loop report refresh (left + 1) used last).run s =
      match (w.round report refresh last).run.run
        (if used = 0 then w.begun report 1 s else s) with
      | (.ok state, t) => (w.loop report refresh left (used + 1) state).run t
      | (.error f, t) =>
        ((if f.isNotFound && w.goneIsReady then .gone else .stopped f, used + 1), t) := by
  have hbegun : (if used = 0 then w.begun report 1 s else s).cancel = .absent := by
    split
    · exact begun_cancel h 1
    · exact h
  rw [loop_pause report refresh hopen, pause_run hbegun, round_run]

/-- The looking is so many rounds with their meaning. That it begins is said before the first. -/
def LoopMeans (w : Wait τ) (report : WaitEvent → ε) (refresh : τ → Run (World ε γ) τ)
    (left used : Nat) (last : τ) (s : World ε γ) : Prop :=
  ∃ i ending,
    w.Means report refresh left used last (if used = 0 then w.begun report i s else s) i
      (w.answer (used + i) ending) ∧
    (w.loop report refresh left used last).run s = ((ending, used + i),
      ((w.rounds report refresh i last).run.run (if used = 0 then w.begun report i s else s)).2)

theorem LoopMeans.stop (w : Wait τ) (report : WaitEvent → ε) (refresh : τ → Run (World ε γ) τ)
    (used : Nat) (s : World ε γ) (hstop : left = 0 ∨ ¬ w.Undecided last) :
    w.LoopMeans report refresh left used last s := by
  obtain ⟨ending, hverdict, hrun⟩ := loop_stop w report refresh used hstop
  refine ⟨0, ending, ?_, ?_⟩ <;> rw [begun_zero, ite_self]
  · exact .stay hverdict
  · exact hrun s

/-- After one more round the looking goes on or is over. -/
theorem LoopMeans.round (hopen : w.Undecided last) (h : s.cancel = .absent)
    (hnext : ∀ state t, (w.round report refresh last).run.run
      (if used = 0 then w.begun report 1 s else s) = (.ok state, t) →
        w.LoopMeans report refresh left (used + 1) state t) :
    w.LoopMeans report refresh (left + 1) used last s := by
  have hloop := loop_succ report refresh hopen h left used
  cases hround : (w.round report refresh last).run.run
      (if used = 0 then w.begun report 1 s else s) with
  | mk r t =>
    rw [hround] at hloop
    cases r with
    | ok state =>
      obtain ⟨i, ending, hmeans, hrun⟩ := hnext state t hround
      rw [if_neg (Nat.succ_ne_zero used), Nat.add_assoc, Nat.add_comm 1 i] at hmeans
      rw [if_neg (Nat.succ_ne_zero used), Nat.add_assoc, Nat.add_comm 1 i] at hrun
      refine ⟨i + 1, ending, ?_, ?_⟩ <;> rw [begun_succ]
      · exact .step hopen hround hmeans
      · rw [hloop, rounds_succ, hround]
        exact hrun
    | error f =>
      refine ⟨1, if f.isNotFound && w.goneIsReady then .gone else .stopped f,
        .broken hopen hround ?_, ?_⟩
      · split
        · next hgone => exact .gone (by simpa using hgone)
        · next hgone => exact .raised (by simpa using hgone)
      · rw [hloop, rounds_succ, hround]

theorem loop_means (w : Wait τ) (report : WaitEvent → ε)
    (hrefresh : ∀ t (u : World ε γ), u.cancel = .absent →
      ((refresh t).run.run u).2.cancel = .absent)
    (left used : Nat) (last : τ) (h : s.cancel = .absent) :
    w.LoopMeans report refresh left used last s := by
  induction left generalizing used last s with
  | zero => exact .stop w report refresh used s (.inl rfl)
  | succ left ih =>
    by_cases hopen : w.Undecided last
    · refine .round hopen h fun state t hround => ih (used + 1) state ?_
      have hbegun : (if used = 0 then w.begun report 1 s else s).cancel = .absent := by
        split
        · exact begun_cancel h 1
        · exact h
      have hafter := round_cancel w report hrefresh last hbegun
      rwa [hround] at hafter
    · exact .stop w report refresh used s (.inr hopen)

/-! ## The whole wait -/

theorem report?_isRound (w : Wait τ) (attempts : Nat) (ending : Ending τ) :
    ∀ e ∈ (w.report? attempts ending).toList, e.isRound = false := by
  unfold report?
  split
  · split <;> simp [WaitEvent.isRound]
  all_goals simp [WaitEvent.isRound]

/-- What is written down of an ending. -/
def closing (w : Wait τ) (seconds : Float) (ending : Ending τ) (attempts : Nat) : List WaitEvent :=
  ((result? ending).map fun r => .ended w.condition r seconds).toList ++
    (w.report? attempts ending).toList

theorem closing_isRound (w : Wait τ) (seconds : Float) (ending : Ending τ) (attempts : Nat) :
    ∀ e ∈ w.closing seconds ending attempts, e.isRound = false := by
  intro e he
  rcases List.mem_append.mp he with he | he
  · obtain ⟨r, -, rfl⟩ := Option.map_eq_some_iff.mp (Option.mem_toList.mp he)
    rfl
  · exact report?_isRound w attempts ending e he

/-- What is left after the looking is to write down how it ended, and to answer. -/
theorem conclude_run (w : Wait τ) (report : WaitEvent → ε) (start : Float) (ending : Ending τ)
    (attempts : Nat) (s : World ε γ) :
    (w.conclude report start ending attempts).run.run s = (w.answer attempts ending,
      s.noteAll ((w.closing (s.now - start) ending attempts).map report)) := by
  rw [conclude, closing, List.map_append, ← Option.toList_map, ← Option.toList_map,
    World.noteAll_append, World.noteAll_toList, World.noteAll_toList]
  cases result? ending <;> cases w.report? attempts ending <;>
    cases w.answer attempts ending <;> rfl

theorem run_run (w : Wait τ) (report : WaitEvent → ε) (refresh : τ → Run (World ε γ) τ) (first : τ)
    (s : World ε γ) :
    (w.run report refresh first).run.run s =
      (let looked := (w.loop report refresh w.attempts.toNat 0 first).run s
      (w.conclude report s.now looked.1.1 looked.1.2).run.run looked.2) := rfl

/-- A wait is its rounds, and what it writes down in the end. -/
theorem run_rounds (w : Wait τ) (report : WaitEvent → ε)
    (hrefresh : ∀ t (u : World ε γ), u.cancel = .absent →
      ((refresh t).run.run u).2.cancel = .absent)
    (first : τ) (h : s.cancel = .absent) :
    ∃ i, w.Means report refresh w.attempts.toNat 0 first (w.begun report i s) i
        ((w.run report refresh first).run.run s).1 ∧
      ∃ closing : List WaitEvent, (∀ e ∈ closing, e.isRound = false) ∧
        ((w.run report refresh first).run.run s).2 =
          ((w.rounds report refresh i first).run.run (w.begun report i s)).2.noteAll
            (closing.map report) := by
  obtain ⟨i, ending, hmeans, hloop⟩ :=
    w.loop_means report hrefresh w.attempts.toNat 0 first h
  rw [if_pos rfl, Nat.zero_add] at hmeans hloop
  have hrun : (w.run report refresh first).run.run s = _ := run_run ..
  rw [hloop, conclude_run] at hrun
  rw [hrun]
  exact ⟨i, hmeans, _, w.closing_isRound _ ending i, rfl⟩

/-- **What a wait means that nothing cuts short**, whatever its fetches do: there is exactly one
number of rounds after which it is decided, or the budget is spent; the wait makes that many and
answers what the last one found. Each is one sleep and one fetch, and there is no sleep and no fetch
besides. -/
theorem run_means (w : Wait τ) (settings : PollSettings) (operation : String)
    (attempts : Option Int) (delay : Option Float) (report : WaitEvent → ε)
    {refresh : τ → Run (World ε γ) τ}
    (hrefresh : ∀ t (u : World ε γ), u.cancel = .absent →
      ((refresh t).run.run u).2.cancel = .absent)
    (first : τ) {s : World ε γ} (h : s.cancel = .absent) :
    let wait := w.within settings operation attempts delay
    let budget := (attempts.getD (settings.budgetFor operation).maxAttempts).toNat
    ∃! i, wait.Means report refresh budget 0 first (wait.begun report i s) i
        ((wait.run report refresh first).run.run s).1 ∧
      ∃ closing : List WaitEvent, (∀ e ∈ closing, e.isRound = false) ∧
        ((wait.run report refresh first).run.run s).2 =
          ((wait.rounds report refresh i first).run.run (wait.begun report i s)).2.noteAll
            (closing.map report) := by
  intro wait budget
  have hbudget : wait.attempts.toNat = budget := congrArg Int.toNat (within_attempts ..)
  obtain ⟨i, hmeans, hworld⟩ := wait.run_rounds report hrefresh first h
  rw [hbudget] at hmeans
  refine ⟨i, ⟨hmeans, hworld⟩, ?_⟩
  rintro j ⟨hother, -⟩
  exact Nat.le_antisymm (hother.le hmeans) (hmeans.le hother)

end Means

/-- A volume that is created is available after one round. -/
theorem available_after_one :
    let w : Wait String := ⟨"volume_available", 0, 0, (· = "available"), (· = "error"), false⟩
    let refresh (_ : String) : Run (World WaitEvent Unit) String := return "available"
    (∀ t u, u.cancel = .absent → ((refresh t).run.run u).2.cancel = .absent) ∧
    let wait := w.within {} "create_volume" none none
    let s : World WaitEvent Unit := { remote := () }
    s.cancel = .absent ∧
      ((wait.run id refresh "creating").run.run s).1 = .ok (some "available") := by
  intro w refresh
  have hrefresh : ∀ t u, u.cancel = .absent → ((refresh t).run.run u).2.cancel = .absent :=
    fun _ _ h => h
  refine ⟨hrefresh, rfl, ?_⟩
  obtain ⟨i, ⟨hmeans, -⟩, -⟩ := w.run_means {} "create_volume" none none id hrefresh "creating"
    (s := { remote := () }) rfl
  have hfetched (u : World WaitEvent Unit) :
      (((w.within {} "create_volume" none none).rounds id refresh 1 "creating").run.run u).1 =
        .ok "available" := rfl
  obtain rfl : i = 1 := by
    match i, hmeans with
    | 0, hmeans => exact absurd (hmeans.eq_of_undecided rfl ⟨by decide, by decide⟩) (by decide)
    | 1, _ => rfl
    | i + 2, hmeans =>
      obtain ⟨state, hstate, -, hready⟩ := hmeans.undecided 1 (by omega)
      rw [hfetched] at hstate
      obtain rfl := Except.ok.inj hstate
      exact absurd hready (by decide)
  have hverdict := hmeans.verdict
  rw [hfetched] at hverdict
  generalize (((w.within {} "create_volume" none none).run id refresh "creating").run.run
    { remote := () }).1 = r at hverdict
  cases hverdict with
  | failed hf => exact absurd hf (by decide)
  | ready _ _ => rfl

end Wait

end BlockStorage
