import BlockStorage.Proofs.Alone
import BlockStorage.Proofs.Wait.Meaning

/-!
# Waits that can be cut short

The caller's cancel event ends a pause of a wait, and only a pause: what a fetch
finds is judged before anything is said about the event. So a wait makes its
rounds until a state decides, a fetch fails or the budget is spent, as it would
without the event, or else until a pause is cut short.

* `Wait.Scripted`: what fetches do, told by a script.
* `Wait.CutAt`, `Wait.Lasts`: whether a pause is cut short, or lasts.
* `Wait.Heeds`: how many fetches a wait makes that has an event, and what comes of
  them.
* `Wait.ran_heeds`: every such wait has this meaning, and is the same as without
  the event if this is not set.
-/

namespace BlockStorage

namespace Wait

variable {τ ε γ : Type}

/-! ## Fetches -/

/-- What a fetch does in a world with nobody else is told by a script: by the state from which it is
made, and by the time and the remote side that it finds. -/
def Scripted (refresh : τ → Run (World ε γ) τ)
    (script : τ → Float → γ → Visit ε γ (Except Fault τ)) : Prop :=
  ∀ t (s : World ε γ), s.Alone → (refresh t).run.run s =
    ((script t s.now s.remote).answer, s.leave (script t s.now s.remote))

/-- A fetch that is a call goes by a script. -/
theorem scripted_finish {pauses : Nat} (call : τ → Float → γ → Leg ε γ (Except Fault τ) pauses) :
    Scripted (fun t => ExceptT.mk fun s : World ε γ => (call t s.now s.remote).finish s)
      fun t now remote => (call t now remote).visit now :=
  fun _ _ h => h.finish _

section

variable (w : Wait τ) (report : WaitEvent → ε) (refresh : τ → Run (World ε γ) τ)

/-- A pause that is not cut short, and a fetch. -/
def attempt (last : τ) : Run (World ε γ) τ := do
  modify (World.pause w.delay 1)
  modify (World.note (report (.refreshing w.condition)))
  refresh last

/-- So many of them, each from the state that the one before has found. A fetch that fails ends
them. -/
def tries : Nat → τ → Run (World ε γ) τ
  | 0, last => return last
  | n + 1, last => do tries n (← w.attempt report refresh last)

end

section Meaning

variable {w : Wait τ} {report : WaitEvent → ε} {refresh : τ → Run (World ε γ) τ} {s t : World ε γ}
  {last : τ}

theorem attempt_run (last : τ) (s : World ε γ) :
    (w.attempt report refresh last).run.run s =
      (refresh last).run.run ((s.pause w.delay 1).note (report (.refreshing w.condition))) := rfl

theorem tries_succ (n : Nat) (last : τ) (s : World ε γ) :
    (w.tries report refresh (n + 1) last).run.run s =
      match (w.attempt report refresh last).run.run s with
      | (.ok state, t) => (w.tries report refresh n state).run.run t
      | (.error f, t) => (.error f, t) := by
  rw [tries, Run.run_bind]
  generalize (w.attempt report refresh last).run.run s = done
  obtain ⟨r, t⟩ := done
  cases r <;> rfl

/-! ## Pauses -/

/-- A pause that begins in a world is cut short: the event has been set by then, or is set before
the pause is over. -/
def CutAt (w : Wait τ) (s : World ε γ) (time : Float) : Prop :=
  s.cancel = .from time ∧ (time ≤ s.now ∨ time < later s.now w.delay)

/-- The world after a pause that is cut short: the time is that of the event, unless this has been
set before. -/
def cutTo (s : World ε γ) (time : Float) : World ε γ :=
  s.runTo (if time ≤ s.now then s.now else time)

/-- A pause that begins in a world is not cut short, and the event is not set before it is over. -/
structure Lasts (w : Wait τ) (s : World ε γ) : Prop where
  uncut : ∀ time, ¬ w.CutAt s time
  unset : ∀ time, s.cancel = .from time → ¬ time < (s.pause w.delay 1).now

theorem Lasts.of_uncut (h : s.Alone) (huncut : ∀ time, ¬ w.CutAt s time) : w.Lasts s where
  uncut := huncut
  unset time hset hlt := by
    rw [h.pause] at hlt
    exact huncut time ⟨hset, World.lt_rested hlt⟩

theorem cutAt_begun {pauses : Nat} {time : Float} :
    w.CutAt (w.begun report pauses s) time ↔ w.CutAt s time := by
  rw [begun]
  split <;> exact Iff.rfl

theorem pause_cut (h : s.Alone) {time : Float} (hcut : w.CutAt s time) :
    (pause report w.delay).run s = (true, cutTo s time) := by
  obtain ⟨hset, hcut⟩ := hcut
  show pause report w.delay s = _
  rw [pause, hset, cutTo]
  by_cases hpast : time ≤ s.now
  · dsimp only
    rw [if_pos hpast, if_pos hpast]
    rfl
  · have hlater := hcut.resolve_left hpast
    dsimp only
    rw [if_neg hpast, if_pos hlater, if_neg hpast,
      h.pauseUntil (World.lt_of_lt_later hlater hpast)]

theorem pause_lasts (hevent : s.cancel ≠ .absent) (h : w.Lasts s) :
    (pause report w.delay).run s = (false, s.pause w.delay 1) := by
  show pause report w.delay s = _
  rw [pause]
  split
  · next hnone => exact absurd hnone hevent
  · rfl
  · next time hset =>
    rw [if_neg fun hle => h.uncut time ⟨hset, .inl hle⟩,
      if_neg fun hlt => h.uncut time ⟨hset, .inr hlt⟩]

/-- After a pause that was cut short the event is set. -/
theorem isSetAt_cutTo {time : Float} (hcut : w.CutAt s time) :
    (cutTo s time).cancel.isSetAt (cutTo s time).now = true := by
  obtain ⟨hset, hcut⟩ := hcut
  show s.cancel.isSetAt (if time ≤ s.now then s.now else time) = true
  rw [hset]
  refine decide_eq_true ?_
  split
  · assumption
  · next hpast =>
    have hnumber := (Double.lt_iff.mp (hcut.resolve_left hpast)).1.1
    exact Double.le_iff.mpr ⟨⟨hnumber, hnumber⟩, Int.le_refl _⟩

/-! ## Worlds with an event -/

/-- There is nobody else, and an event that may be set. -/
structure Watched (s : World ε γ) : Prop where
  alone : s.Alone
  event : s.cancel ≠ .absent

namespace Watched

theorem note (h : Watched s) (e : ε) : Watched (s.note e) := ⟨h.alone.note e, h.event⟩

/-- Also after a wait has said that it begins. -/
theorem begun_ite (h : Watched s) (w : Wait τ) (report : WaitEvent → ε) (c : Prop) [Decidable c] :
    Watched (if c then w.begun report 1 s else s) := by
  split
  · exact h.note _
  · exact h

theorem leave (h : Watched s) {α : Type} (v : Visit ε γ α) : Watched (s.leave v) where
  alone := h.alone.leave v
  event := by
    show v.sets.foldl Cancel.setAt s.cancel ≠ .absent
    have hevent := h.event
    generalize s.cancel = c at hevent
    induction v.sets generalizing c with
    | nil => exact hevent
    | cons time times ih =>
      refine ih _ ?_
      cases c with
      | absent => exact absurd rfl hevent
      | unset => exact Cancel.noConfusion
      | «from» time' => exact Cancel.noConfusion

theorem pause (h : Watched s) (delay : Float) (again : Nat) : Watched (s.pause delay again) := by
  rw [h.alone.pause]
  exact ⟨h.alone.runTo _, h.event⟩

theorem attempt (h : Watched s) (w : Wait τ) (report : WaitEvent → ε)
    {script : τ → Float → γ → Visit ε γ (Except Fault τ)} (hscript : Scripted refresh script)
    (last : τ) : Watched ((w.attempt report refresh last).run.run s).2 := by
  have hfetch := (h.pause w.delay 1).note (report (.refreshing w.condition))
  rw [attempt_run, hscript last _ hfetch.alone]
  exact hfetch.leave _

end Watched

/-! ## An event that is not set -/

/-- Two worlds with nobody else in them, of which only the first one has an event, and which are
otherwise the same as far as `view` shows. -/
structure Twins {β : Type} (view : ε → List β) (s s' : World ε γ) : Prop where
  watched : Watched s
  alone : s'.Alone
  none : s'.cancel = .absent
  now : s.now = s'.now
  remote : s.remote = s'.remote
  journal : s.journal.flatMap view = s'.journal.flatMap view

namespace Twins

variable {β : Type} {view : ε → List β} {s' : World ε γ}

theorem noteAll (h : Twins view s s') (es : List ε) :
    Twins view (s.noteAll es) (s'.noteAll es) where
  watched := ⟨⟨h.watched.alone.agenda, h.watched.alone.strays⟩, h.watched.event⟩
  alone := ⟨h.alone.agenda, h.alone.strays⟩
  none := h.none
  now := h.now
  remote := h.remote
  journal := by
    show (s.journal ++ es).flatMap view = (s'.journal ++ es).flatMap view
    rw [List.flatMap_append, List.flatMap_append, h.journal]

theorem note (h : Twins view s s') (e : ε) : Twins view (s.note e) (s'.note e) := h.noteAll [e]

/-- Also after a wait has said in both that it begins. -/
theorem begun_ite (h : Twins view s s') (w : Wait τ) (report : WaitEvent → ε) (c : Prop)
    [Decidable c] :
    Twins view (if c then w.begun report 1 s else s) (if c then w.begun report 1 s' else s') := by
  split
  · exact h.note _
  · exact h

/-- Without the event a pause is a sleep, which the view does not show. -/
theorem pause (h : Twins view s s') (hview : view (report (.slept w.delay)) = []) :
    Twins view (s.pause w.delay 1) ((s'.note (report (.slept w.delay))).pause w.delay 0) where
  watched := h.watched.pause w.delay 1
  alone := by
    have hnoted := h.alone.note (report (.slept w.delay))
    rw [hnoted.pause]
    exact hnoted.runTo _
  none := World.pause_cancel (s := s'.note _) h.none w.delay 0
  now := by
    rw [h.watched.alone.pause, (h.alone.note _).pause]
    exact congrArg (World.rested · w.delay) h.now
  remote := by
    rw [h.watched.alone.pause, (h.alone.note _).pause]
    exact h.remote
  journal := by
    rw [h.watched.alone.pause, (h.alone.note _).pause]
    show s.journal.flatMap view = (s'.journal ++ [_]).flatMap view
    rw [List.flatMap_append, List.flatMap_singleton, hview, List.append_nil, h.journal]

theorem leave (h : Twins view s s') {α : Type} (v : Visit ε γ α) :
    Twins view (s.leave v) (s'.leave v) where
  watched := h.watched.leave v
  alone := h.alone.leave v
  none := by
    show v.sets.foldl Cancel.setAt s'.cancel = .absent
    rw [h.none]
    induction v.sets with
    | nil => rfl
    | cons time times ih => exact ih
  now := rfl
  remote := rfl
  journal := by
    show (s.journal ++ v.trace).flatMap view = (s'.journal ++ v.trace).flatMap view
    rw [List.flatMap_append, List.flatMap_append, h.journal]

end Twins

/-- Two steps end alike, one of them in a world with an event, if this is not set in the end. -/
def AlikeUnset {α β : Type} (view : ε → List β) (done done' : α × World ε γ) : Prop :=
  done.2.cancel.isSetAt done.2.now = false → done.1 = done'.1 ∧ Twins view done.2 done'.2

/-! ## The meaning -/

variable [Viewed τ]

/-- How a wait ends after `used` fetches and `fetches` more, with so many pauses: its last fetch
decides, or a pause is cut short while there are fetches left. -/
inductive Ends (w : Wait τ) (budget used : Nat) : (pauses fetches : Nat) →
    Except Fault τ × World ε γ → Except Fault (Option τ) × World ε γ → Prop
  | decided {i : Nat} {found : Except Fault τ} {s : World ε γ} {r : Except Fault (Option τ)}
      (h : w.Verdict budget (used + i) found r) : Ends w budget used i i (found, s) (r, s)
  | cut {i : Nat} {last : τ} {s : World ε γ} {time : Float} (hopen : w.Undecided last)
      (hleft : used + i < budget) (hcut : w.CutAt s time) :
      Ends w budget used (i + 1) i (.ok last, s)
        (.error (.pollCancelled w.condition (Viewed.view last)), cutTo s time)

/-- With `left` fetches to go and `used` done, from a state and a world on: `fetches` more are made,
each after a look that leaves it open and a pause that lasts, and then the wait ends so. -/
structure Heeds (w : Wait τ) (report : WaitEvent → ε) (refresh : τ → Run (World ε γ) τ)
    (left used : Nat) (last : τ) (s : World ε γ) (pauses fetches : Nat)
    (r : Except Fault (Option τ) × World ε γ) : Prop where
  bound : fetches ≤ left
  before : ∀ j < fetches, ∃ state t, (w.tries report refresh j last).run.run s = (.ok state, t) ∧
    w.Undecided state ∧ w.Lasts t
  ends : w.Ends (used + left) used pauses fetches
    ((w.tries report refresh fetches last).run.run s) r

variable {left used pauses fetches : Nat} {r : Except Fault (Option τ) × World ε γ}

namespace Heeds

theorem stay {answer : Except Fault (Option τ)}
    (h : w.Verdict (used + left) used (.ok last) answer) :
    w.Heeds report refresh left used last s 0 0 (answer, s) :=
  ⟨Nat.zero_le _, fun _ hj => absurd hj (Nat.not_lt_zero _), .decided h⟩

theorem cut (hopen : w.Undecided last) {time : Float} (hcut : w.CutAt s time) :
    w.Heeds report refresh (left + 1) used last s 1 0
      (.error (.pollCancelled w.condition (Viewed.view last)), cutTo s time) :=
  ⟨Nat.zero_le _, fun _ hj => absurd hj (Nat.not_lt_zero _), .cut hopen (by omega) hcut⟩

theorem broken (hopen : w.Undecided last) (hlasts : w.Lasts s) {f : Fault}
    (hattempt : (w.attempt report refresh last).run.run s = (.error f, t))
    {answer : Except Fault (Option τ)}
    (h : w.Verdict (used + (left + 1)) (used + 1) (.error f) answer) :
    w.Heeds report refresh (left + 1) used last s 1 1 (answer, t) where
  bound := Nat.succ_le_succ (Nat.zero_le _)
  before j hj := by
    obtain rfl : j = 0 := Nat.lt_one_iff.mp hj
    exact ⟨last, s, rfl, hopen, hlasts⟩
  ends := by
    rw [tries_succ, hattempt]
    exact .decided h

theorem step (hopen : w.Undecided last) (hlasts : w.Lasts s) {state : τ}
    (hattempt : (w.attempt report refresh last).run.run s = (.ok state, t))
    (h : w.Heeds report refresh left (used + 1) state t pauses fetches r) :
    w.Heeds report refresh (left + 1) used last s (pauses + 1) (fetches + 1) r where
  bound := Nat.succ_le_succ h.bound
  before j hj := by
    cases j with
    | zero => exact ⟨last, s, rfl, hopen, hlasts⟩
    | succ j =>
      rw [tries_succ, hattempt]
      exact h.before j (Nat.lt_of_succ_lt_succ hj)
  ends := by
    have hends := h.ends
    rw [tries_succ, hattempt]
    dsimp only
    generalize (w.tries report refresh fetches state).run.run t = found at hends
    rw [Nat.add_right_comm used 1 left] at hends
    cases hends with
    | decided hverdict =>
      rw [Nat.add_right_comm used 1 pauses] at hverdict
      exact .decided hverdict
    | cut hopen hleft hcut => exact .cut hopen (by omega) hcut

/-- As long as it is undecided and no pause is cut short, there is a next fetch. -/
theorem eq_of_undecided (h : w.Heeds report refresh left used last s pauses fetches r) {state : τ}
    (hfound : (w.tries report refresh fetches last).run.run s = (.ok state, t))
    (hopen : w.Undecided state) (huncut : ∀ time, ¬ w.CutAt t time) : fetches = left := by
  have hends := h.ends
  rw [hfound] at hends
  cases hends with
  | decided hverdict =>
    generalize hused : used + pauses = rounds at hverdict
    cases hverdict with
    | failed hf => exact absurd (hopen.1.symm.trans hf) Bool.false_ne_true
    | ready _ hr => exact absurd (hopen.2.symm.trans hr) Bool.false_ne_true
    | exhausted _ => exact Nat.add_left_cancel hused
  | cut _ _ hcut => exact absurd hcut (huncut _)

theorem fetches_le_pauses (h : w.Heeds report refresh left used last s pauses fetches r) :
    fetches ≤ pauses := by
  have hends := h.ends
  generalize (w.tries report refresh fetches last).run.run s = found at hends
  cases hends with
  | decided _ => exact Nat.le_refl _
  | cut _ _ _ => exact Nat.le_succ _

/-- Where fewer fetches decide, there are no more. Whether the wait has said that it begins makes no
difference before the first of them. -/
theorem le {pauses' fetches' : Nat} {r' : Except Fault (Option τ) × World ε γ}
    (h : w.Heeds report refresh left used last (w.begun report pauses s) pauses fetches r)
    (h' : w.Heeds report refresh left used last (w.begun report pauses' s) pauses' fetches' r') :
    fetches ≤ fetches' := by
  refine Nat.le_of_not_lt fun hlt => ?_
  obtain ⟨state, t, hfound, hopen, hlasts⟩ := h.before fetches' hlt
  -- Both come to the same world by `fetches'` fetches: if there are any, each has begun by then.
  have hagain : ∃ t', (w.tries report refresh fetches' last).run.run (w.begun report pauses' s) =
      (.ok state, t') ∧ ∀ time, ¬ w.CutAt t' time := by
    cases fetches' with
    | zero =>
      obtain ⟨hstate, ht⟩ := Prod.mk.inj hfound
      refine ⟨_, Prod.ext hstate rfl, fun time hcut => hlasts.uncut time ?_⟩
      rw [← ht]
      exact cutAt_begun.mpr (cutAt_begun.mp hcut)
    | succ fetches' =>
      obtain ⟨p, rfl⟩ := Nat.exists_eq_succ_of_ne_zero
        (Nat.ne_of_gt (Nat.lt_of_lt_of_le (Nat.zero_lt_of_lt hlt) h.fetches_le_pauses))
      obtain ⟨p', rfl⟩ := Nat.exists_eq_succ_of_ne_zero
        (Nat.ne_of_gt (Nat.lt_of_lt_of_le (Nat.succ_pos _) h'.fetches_le_pauses))
      exact ⟨t, hfound, hlasts.uncut⟩
  obtain ⟨t', hfound', huncut⟩ := hagain
  have hall := h'.eq_of_undecided hfound' hopen huncut
  have hbound := h.bound
  omega

end Heeds

/-! ## The loop -/

/-- The looking is so many fetches with their meaning. That it begins is said before the first
pause. -/
def LoopHeeds (w : Wait τ) (report : WaitEvent → ε) (refresh : τ → Run (World ε γ) τ)
    (left used : Nat) (last : τ) (s : World ε γ) : Prop :=
  ∃ pauses fetches ending t,
    w.Heeds report refresh left used last (if used = 0 then w.begun report pauses s else s) pauses
      fetches (w.answer (used + fetches) ending, t) ∧
    (w.loop report refresh left used last).run s = ((ending, used + fetches), t)

theorem LoopHeeds.stop (w : Wait τ) (report : WaitEvent → ε) (refresh : τ → Run (World ε γ) τ)
    (used : Nat) (s : World ε γ) (hstop : left = 0 ∨ ¬ w.Undecided last) :
    w.LoopHeeds report refresh left used last s := by
  obtain ⟨ending, hverdict, hrun⟩ := loop_stop w report refresh used hstop
  refine ⟨0, 0, ending, s, ?_, hrun s⟩
  rw [begun_zero, ite_self]
  exact .stay hverdict

/-- A pause that is cut short is the last one. -/
theorem LoopHeeds.cut (report : WaitEvent → ε) (refresh : τ → Run (World ε γ) τ)
    (hopen : w.Undecided last) (h : Watched s) {time : Float}
    (hcut : w.CutAt (if used = 0 then w.begun report 1 s else s) time) :
    w.LoopHeeds report refresh (left + 1) used last s := by
  have hloop := loop_pause report refresh hopen left used s
  rw [pause_cut (h.begun_ite w report (used = 0)).alone hcut] at hloop
  exact ⟨1, 0, _, _, .cut hopen hcut, hloop⟩

/-- After a pause that lasts, and one more fetch, the looking goes on or is over. -/
theorem LoopHeeds.attempt (hopen : w.Undecided last) (h : Watched s)
    (hlasts : w.Lasts (if used = 0 then w.begun report 1 s else s))
    (hnext : ∀ state t, (w.attempt report refresh last).run.run
      (if used = 0 then w.begun report 1 s else s) = (.ok state, t) →
        w.LoopHeeds report refresh left (used + 1) state t) :
    w.LoopHeeds report refresh (left + 1) used last s := by
  have hloop := loop_pause report refresh hopen left used s
  rw [pause_lasts (h.begun_ite w report (used = 0)).event hlasts] at hloop
  dsimp only at hloop
  rw [← attempt_run] at hloop
  cases hattempt : (w.attempt report refresh last).run.run
      (if used = 0 then w.begun report 1 s else s) with
  | mk r t =>
    rw [hattempt] at hloop
    cases r with
    | ok state =>
      obtain ⟨pauses, fetches, ending, u, hheeds, hrun⟩ := hnext state t hattempt
      rw [if_neg (Nat.succ_ne_zero used), Nat.add_assoc, Nat.add_comm 1 fetches] at hheeds
      rw [Nat.add_assoc, Nat.add_comm 1 fetches] at hrun
      exact ⟨pauses + 1, fetches + 1, ending, u, .step hopen hlasts hattempt hheeds,
        hloop.trans hrun⟩
    | error f =>
      refine ⟨1, 1, if f.isNotFound && w.goneIsReady then .gone else .stopped f, t,
        .broken hopen hlasts hattempt ?_, hloop⟩
      split
      · next hgone => exact .gone (by simpa using hgone)
      · next hgone => exact .raised (by simpa using hgone)

theorem loop_heeds (w : Wait τ) (report : WaitEvent → ε)
    {script : τ → Float → γ → Visit ε γ (Except Fault τ)} (hscript : Scripted refresh script)
    (left used : Nat) (last : τ) (h : Watched s) :
    w.LoopHeeds report refresh left used last s := by
  -- A fetch by a script leaves the world watched, which carries the induction.
  induction left generalizing used last s with
  | zero => exact .stop w report refresh used s (.inl rfl)
  | succ left ih =>
    by_cases hopen : w.Undecided last
    · by_cases hcut : ∃ time, w.CutAt (if used = 0 then w.begun report 1 s else s) time
      · obtain ⟨time, hcut⟩ := hcut
        exact .cut report refresh hopen h hcut
      · have hbegun := h.begun_ite w report (used = 0)
        have hlasts := Lasts.of_uncut hbegun.alone fun time hc => hcut ⟨time, hc⟩
        refine .attempt hopen h hlasts fun state t hattempt => ih (used + 1) state ?_
        have hafter := hbegun.attempt w report hscript last
        rwa [hattempt] at hafter
    · exact .stop w report refresh used s (.inr hopen)

theorem AlikeUnset.stop (w : Wait τ) (report : WaitEvent → ε) (refresh : τ → Run (World ε γ) τ)
    (used : Nat) {β : Type} {view : ε → List β} {s' : World ε γ} (h : Twins view s s')
    (hstop : left = 0 ∨ ¬ w.Undecided last) :
    AlikeUnset view ((w.loop report refresh left used last).run s)
      ((w.loop report refresh left used last).run s') := by
  obtain ⟨ending, -, hrun⟩ := loop_stop w report refresh used hstop
  rw [hrun s, hrun s']
  exact fun _ => ⟨rfl, h⟩

/-- The looking is the same with an event that is not set in the end as without one. -/
theorem loop_twins (w : Wait τ) (report : WaitEvent → ε)
    {script : τ → Float → γ → Visit ε γ (Except Fault τ)} (hscript : Scripted refresh script)
    {β : Type} {view : ε → List β} (hview : view (report (.slept w.delay)) = [])
    (left used : Nat) (last : τ) {s' : World ε γ} (h : Twins view s s') :
    AlikeUnset view ((w.loop report refresh left used last).run s)
      ((w.loop report refresh left used last).run s') := by
  induction left generalizing used last s s' with
  | zero => exact .stop w report refresh used h (.inl rfl)
  | succ left ih =>
    by_cases hopen : w.Undecided last
    · have hbegun := h.begun_ite w report (used = 0)
      rw [loop_pause report refresh hopen, loop_pause report refresh hopen, pause_run hbegun.none]
      by_cases hcut : ∃ time, w.CutAt (if used = 0 then w.begun report 1 s else s) time
      · -- The event is set after a pause that it has cut short.
        obtain ⟨time, hcut⟩ := hcut
        rw [pause_cut hbegun.watched.alone hcut]
        exact fun hunset => absurd ((isSetAt_cutTo hcut).symm.trans hunset) Bool.false_ne_true.symm
      · have hlasts := Lasts.of_uncut hbegun.watched.alone fun time hc => hcut ⟨time, hc⟩
        rw [pause_lasts hbegun.watched.event hlasts]
        have hfetch := (hbegun.pause hview).note (report (.refreshing w.condition))
        dsimp only
        generalize World.note (report (.refreshing w.condition)) _ = u at hfetch
        generalize World.note (report (.refreshing w.condition)) _ = u' at hfetch
        rw [hscript last u hfetch.watched.alone, hscript last u' hfetch.alone, hfetch.now,
          hfetch.remote]
        generalize script last u'.now u'.remote = v
        have hleft := hfetch.leave v
        cases v.answer with
        | ok state => exact ih (used + 1) state hleft
        | error f => exact fun _ => ⟨rfl, hleft⟩
    · exact .stop w report refresh used h (.inr hopen)

/-! ## The whole wait -/

/-- What a wait answers that begins in a world, and the world after it. -/
def ran (w : Wait τ) (report : WaitEvent → ε) (refresh : τ → Run (World ε γ) τ) (first : τ)
    (s : World ε γ) : Except Fault (Option τ) × World ε γ :=
  (w.run report refresh first).run.run s

theorem ran_eq {ending : Ending τ} {attempts : Nat} (first : τ)
    (h : (w.loop report refresh w.attempts.toNat 0 first).run s = ((ending, attempts), t)) :
    w.ran report refresh first s = (w.answer attempts ending,
      t.noteAll ((w.closing (t.now - s.now) ending attempts).map report)) := by
  rw [ran, run_run, h, conclude_run]

/-- A wait is the same with an event that is not set in the end as without one. -/
theorem ran_twins {script : τ → Float → γ → Visit ε γ (Except Fault τ)}
    (hscript : Scripted refresh script) {β : Type} {view : ε → List β}
    (hview : view (report (.slept w.delay)) = []) (first : τ) {s' : World ε γ}
    (h : Twins view s s') :
    AlikeUnset view (w.ran report refresh first s) (w.ran report refresh first s') := by
  have hlooked := w.loop_twins report hscript hview w.attempts.toNat 0 first h
  cases hloop : (w.loop report refresh w.attempts.toNat 0 first).run s with
  | mk looked t =>
    cases hloop' : (w.loop report refresh w.attempts.toNat 0 first).run s' with
    | mk looked' t' =>
      rw [hloop, hloop'] at hlooked
      rw [ran_eq first hloop, ran_eq first hloop']
      intro hunset
      obtain ⟨hending, htwins⟩ := hlooked hunset
      obtain rfl : looked = looked' := hending
      rw [htwins.now, h.now]
      exact ⟨rfl, htwins.noteAll _⟩

/-- **What a wait means that an event can cut short**, whatever its fetches do and however long they
take, whenever the event is set. There is exactly one number of fetches after which it is decided,
the budget is spent, or a pause is cut short; the wait makes that many. Each follows a look that
leaves it open and a pause that lasts, so that it does not begin after the event is set. What the
last one found is looked at before the next pause is; a pause that is cut short ends the wait at the
time of the event, or at once.

If the event is not set in the end, the answer, the time, the remote side and all that is reported
but sleeps are the same as without an event. -/
theorem ran_heeds (w : Wait τ) (report : WaitEvent → ε)
    {script : τ → Float → γ → Visit ε γ (Except Fault τ)} (hscript : Scripted refresh script)
    (first : τ) (h : Watched s) :
    (∃! fetches, ∃ pauses u, w.Heeds report refresh w.attempts.toNat 0 first
        (w.begun report pauses s) pauses fetches ((w.ran report refresh first s).1, u) ∧
      ∃ closing : List WaitEvent, (∀ e ∈ closing, e.isRound = false) ∧
        (w.ran report refresh first s).2 = u.noteAll (closing.map report)) ∧
    ∀ {β : Type} (view : ε → List β), view (report (.slept w.delay)) = [] →
      AlikeUnset view (w.ran report refresh first s)
        (w.ran report refresh first { s with cancel := .absent }) := by
  constructor
  · obtain ⟨pauses, fetches, ending, u, hheeds, hloop⟩ :=
      w.loop_heeds report hscript w.attempts.toNat 0 first h
    rw [if_pos rfl, Nat.zero_add] at hheeds
    rw [Nat.zero_add] at hloop
    rw [ran_eq first hloop]
    refine ⟨fetches, ⟨pauses, u, hheeds, _, w.closing_isRound _ ending fetches, rfl⟩, ?_⟩
    rintro fetches' ⟨pauses', u', hother, -⟩
    exact Nat.le_antisymm (hother.le hheeds) (hheeds.le hother)
  · intro β view hview
    exact ran_twins hscript hview first ⟨h, ⟨h.alone.agenda, h.alone.strays⟩, rfl, rfl, rfl, rfl⟩

end Meaning

namespace Interrupted

/-- A wait for a volume that is not there yet whenever it is fetched. -/
def wait : Wait String := ⟨"volume_available", 3, 0.0, (· = "available"), (· = "error"), false⟩

/-- The event may be set while the fetch is under way. -/
def call (sets : Bool) (_ : String) (_ : Float) (_ : Unit) :
    Leg WaitEvent Unit (Except Fault String) 0 :=
  .done { remote := (), cancels := sets } (.ok "creating")

def refresh (sets : Bool) (last : String) : Run (World WaitEvent Unit) String :=
  ExceptT.mk fun s => (call sets last s.now s.remote).finish s

def start : World WaitEvent Unit := { cancel := .unset, remote := () }

/-- What the first fetch has found is looked at, and then the next pause is cut short. If the event
is not set the budget is spent, as it is without an event. -/
theorem cut_after_fetch :
    (∀ sets, Scripted (refresh sets) fun last now remote => (call sets last now remote).visit now) ∧
      Watched start ∧
      (∃! fetches, ∃ pauses u, wait.Heeds id (refresh true) 3 0 "new" (wait.begun id pauses start)
          pauses fetches ((wait.ran id (refresh true) "new" start).1, u) ∧
        ∃ closing : List WaitEvent, (∀ e ∈ closing, e.isRound = false) ∧
          (wait.ran id (refresh true) "new" start).2 = u.noteAll (closing.map id)) ∧
      (wait.ran id (refresh true) "new" start).1 =
        .error (.pollCancelled "volume_available" (.text "creating")) ∧
      (wait.ran id (refresh false) "new" { start with cancel := .absent }).1 =
        .error (.pollTimeout "volume_available" 3 (.text "creating")) ∧
      (wait.ran id (refresh false) "new" start).1 =
        (wait.ran id (refresh false) "new" { start with cancel := .absent }).1 ∧
      Twins WaitEvent.samples (wait.ran id (refresh false) "new" start).2
        (wait.ran id (refresh false) "new" { start with cancel := .absent }).2 := by
  have hscript (sets : Bool) := scripted_finish (call sets)
  have hwatched : Watched start := ⟨⟨rfl, rfl⟩, Cancel.noConfusion⟩
  exact ⟨hscript, hwatched, (ran_heeds wait id (hscript true) "new" hwatched).1, rfl, rfl,
    (ran_heeds wait id (hscript false) "new" hwatched).2 WaitEvent.samples rfl rfl⟩

end Interrupted

end Wait

end BlockStorage
