import BlockStorage.Proofs.Lifecycle.Talk

/-!
# Gateways that answer at once

A gateway that always has the same answer at hand, and a world in which nothing but
the caller goes on: then a flow has one answer, which can be told beforehand. Such
gateways show what the flows may come to.

* `Gateway.prompt`: the gateway.
* `World.Calm`: the world; a pause leaves it calm.
* `World.sideBySide_single`: a call that fails at once is heard of.
* `Lifecycle.Yields`: a flow has this answer in every calm world.
-/

namespace BlockStorage

/-- A gateway that answers at once, always the same. -/
def Gateway.prompt (reply : (r : Request) → Except Fault r.Answer) : Gateway Unit where
  pauses := 0
  call r _ _ := .done ⟨(), [], false⟩ (reply r)

namespace World

variable {ε γ : Type}

/-- Nothing but the caller goes on, and nothing cuts its waits short. -/
structure Calm (w : World ε γ) : Prop where
  cancel : w.cancel = .absent
  strays : w.strays = []

theorem Calm.of_eq {w w' : World ε γ} (h : w.Calm) (hc : w'.cancel = w.cancel)
    (hs : w'.strays = w.strays) : w'.Calm := ⟨hc.trans h.cancel, hs.trans h.strays⟩

/-- Without strays it is the caller's turn at once. -/
theorem Calm.untilTurn {w : World ε γ} (h : w.Calm) (turns : Nat) : (untilTurn turns w).Calm := by
  cases turns with
  | zero => exact h
  | succ turns =>
    rw [World.untilTurn]
    split
    · exact h
    · next t _ =>
      have hnone : (w.atTurn t).resumeStray? t.call = none := by
        rw [resumeStray?, atTurn, h.strays]
        rfl
      dsimp only
      rw [hnone]
      exact h.of_eq rfl rfl

theorem Calm.pause {w : World ε γ} (h : w.Calm) (delay : Float) (again : Nat) :
    (w.pause delay again).Calm := by
  refine Calm.untilTurn (h.of_eq ?_ (rest_strays ..)) _
  rw [rest]
  split <;> rfl

/-! ### A call alone -/

section Alone

variable {α : Type}

/-- What has failed has failed. -/
theorem untilTurn_failure {f : Fault} (turns : Nat) (g : Gathering ε γ α) (w : World ε γ)
    (h : g.failure = some f) : (Gathering.untilTurn turns g w).1.failure = some f := by
  induction turns generalizing g w with
  | zero => exact h
  | succ turns ih =>
    rw [Gathering.untilTurn]
    split
    · exact h
    · dsimp only
      split
      · split
        · exact ih _ _ h
        · refine ih _ _ ?_
          rw [Gathering.settle.eq_def]
          dsimp only
          rw [h]
      · split
        · exact ih _ _ h
        · exact h

theorem resume_done {w : World ε γ} {number : Nat} {next : Float → γ → Leg ε γ α 0} {s : Halt ε γ}
    {a : α} (h : next w.now w.remote = .done s a) :
    w.resume ⟨number, 0, next⟩ = (.inr a, w.haltedBy s) := by
  simp only [resume, h]

/-- A call that answers at once and fails, alone: it is the one whose turn it is first. -/
theorem sideBySide_single {w : World ε γ} (hagenda : w.agenda = {})
    {start : Float → γ → Leg ε γ (Except Fault α) 0} {f : Fault}
    (hstart : ∀ now remote trace a, (start now remote).Runs trace a → a = .error f) :
    (sideBySide [start] w).1 = .error f := by
  obtain ⟨now, cancel, remote, journal, agenda, strays, issued⟩ := w
  subst hagenda
  have hnext : Agenda.next? { following := [⟨issued + 1, 0⟩] } now =
      some ⟨issued + 1, now, {}⟩ := rfl
  have hfailed : ∀ turns, (Gathering.untilTurn (turns + 1)
      (⟨[⟨issued + 1, 0, start⟩], [], none⟩ : Gathering ε γ α)
      ⟨now, cancel, remote, journal, { following := [⟨issued + 1, 0⟩] }, strays,
        issued + 1⟩).1.failure = some f := by
    intro turns
    have hpick : Pending.pick? (issued + 1)
        [(⟨issued + 1, 0, start⟩ : Pending ε γ (Except Fault α))] =
        some (⟨issued + 1, 0, start⟩, []) := if_pos rfl
    rw [Gathering.untilTurn, hnext]
    dsimp only
    rw [hpick]
    dsimp only
    cases hleg : start now remote with
    | done s a =>
      obtain rfl : a = .error f := hstart now remote s.trace a (by rw [hleg]; exact .done s a)
      rw [resume_done hleg]
      exact untilTurn_failure _ _ _ rfl
  have hone := hfailed (Pending.turns [(⟨issued + 1, 0, start⟩ : Pending ε γ (Except Fault α))] +
    Pending.turns strays)
  rw [sideBySide]
  split
  · next hempty => cases hempty
  · dsimp only
    split
    · next f' hf' => exact congrArg _ (Option.some.inj (hf'.symm.trans hone))
    · next hnone => cases hnone.symm.trans hone

end Alone

end World

namespace Lifecycle

variable {α β γ : Type} {c : Lifecycle Unit} {reply : (r : Request) → Except Fault r.Answer}

theorem eq_ok_of_toOption {α ε : Type} {r : Except ε α} {a : α} (h : r.toOption = some a) :
    r = .ok a := by
  cases r with
  | error e => cases h
  | ok b =>
    obtain rfl := Option.some.inj h
    rfl

/-- In every calm world a step has this answer, and leaves the world calm. -/
def Calmly (step : StateM (World Event γ) α) (a : α) : Prop :=
  ∀ w : World Event γ, w.Calm → (step w).1 = a ∧ (step w).2.Calm

namespace Calmly

theorem pure (a : α) : Calmly (γ := γ) (Pure.pure a) a := fun _ h => ⟨rfl, h⟩

theorem bind {step : StateM (World Event γ) α} {next : α → StateM (World Event γ) β} {a : α}
    {b : β} (h : Calmly step a) (hnext : Calmly (next a) b) : Calmly (step >>= next) b := by
  intro w hw
  obtain ⟨ha, hw'⟩ := h w hw
  have hrun : (step >>= next) w = next (step w).1 (step w).2 := rfl
  rw [hrun, ha]
  exact hnext _ hw'

theorem note (e : Event) :
    Calmly (modify (World.note e) : StateM (World Event γ) Unit) () :=
  fun _ h => ⟨rfl, h.of_eq rfl rfl⟩

/-- A pause is not cut short. -/
theorem pause (delay : Float) : Calmly (γ := γ) (Wait.pause Event.wait delay) false := by
  intro w h
  have hslept : (w.note (.wait (.slept delay))).Calm := h.of_eq rfl rfl
  rw [Wait.pause, h.cancel]
  exact ⟨rfl, hslept.pause delay 0⟩

end Calmly

/-- In every calm world a flow has this answer, and leaves the world calm. -/
def Yields (flow : Flow γ α) (r : Except Fault α) : Prop := Calmly flow.run r

namespace Yields

theorem pure (a : α) : Yields (Pure.pure a : Flow γ α) (.ok a) := Calmly.pure _

theorem note (e : Event) : Yields (Flow.note e : Flow γ Unit) (.ok ()) :=
  fun _ h => ⟨rfl, h.of_eq rfl rfl⟩

theorem get_bind {next : World Event γ → Flow γ α} {r : Except Fault α}
    (h : ∀ w, Yields (next w) r) : Yields (get >>= next) r := fun w hw => h w w hw

theorem lift {step : StateM (World Event γ) α} {a : α} (h : Calmly step a) :
    Yields (liftM step : Flow γ α) (.ok a) := by
  intro w hw
  obtain ⟨ha, hw'⟩ := h w hw
  exact ⟨congrArg Except.ok ha, hw'⟩

theorem check {e : Except BadArgument α} {a : α} (he : e = .ok a) :
    Yields (Flow.check e : Flow γ α) (.ok a) := by
  subst he
  exact .pure a

theorem bind {step : Flow γ α} {next : α → Flow γ β} {a : α} {r : Except Fault β}
    (h : Yields step (.ok a)) (hnext : Yields (next a) r) : Yields (step >>= next) r :=
  show Calmly (step.run >>= ExceptT.bindCont next) r from Calmly.bind h hnext

theorem outcome {step : Flow γ α} {r : Except Fault α} (h : Yields step r) :
    Yields (Run.outcome step) (.ok r) := by
  intro w hw
  obtain ⟨hr, hw'⟩ := h w hw
  exact ⟨congrArg Except.ok hr, hw'⟩

theorem orGone {step : Flow γ α} {a : α} (h : Yields step (.ok a)) :
    Yields (Flow.orGone step) (.ok (some a)) := h.outcome.bind (.pure _)

theorem tracked {operation : String} {flow : Flow γ α} {a : α} {c : Lifecycle γ}
    (h : Yields flow (.ok a)) : Yields (c.tracked operation flow) (.ok a) :=
  h.outcome.bind (.pure _)

/-- A call of a prompt gateway. -/
theorem ask (hc : c.gateway = .prompt reply) (r : Request) : Yields (c.ask r) (reply r) := by
  intro w hw
  obtain ⟨gateway, budgets, backend⟩ := c
  subst hc
  exact ⟨rfl, hw.of_eq rfl rfl⟩

theorem volume? (hc : c.gateway = .prompt reply) (scope id : String)
    {answers : List (Option RemoteVolume)} (h : reply (.describeVolumes scope [id]) = .ok answers) :
    Yields (c.volume? scope id) (.ok (volumeAmong id answers)) := by
  have hask := ask hc (.describeVolumes scope [id])
  rw [h] at hask
  exact hask.orGone.bind (.pure _)

/-- A wait that is over after one refresh. -/
theorem waitFor {τ : Type} [Viewed τ] {c : Lifecycle γ} {operation condition : String}
    {ready failed : τ → Bool} {goneIsReady : Bool} {refresh : τ → Flow γ τ} {first state : τ}
    (hpatient : 0 < (c.budgets.budgetFor operation).maxAttempts)
    (hfirst : (c.waitOf operation condition ready failed goneIsReady).Undecided first)
    (hrefresh : Yields (refresh first) (.ok state)) (hfailed : failed state = false)
    (hready : ready state = true) :
    Yields (c.waitFor operation condition ready failed goneIsReady refresh first)
      (.ok (some state)) := by
  generalize hw : c.waitOf operation condition ready failed goneIsReady = w at hfirst
  obtain ⟨left, hleft⟩ : ∃ left, w.attempts.toNat = left + 1 := by
    rw [← hw]
    exact Nat.exists_eq_add_one.mpr hpatient
  have hlast : Calmly (w.loop .wait refresh left 1 state) (.ready state, 1) := by
    have hloop : w.loop .wait refresh left 1 state = Pure.pure (.ready state, 1) := by
      rw [← hw]
      cases left <;> simp only [Wait.loop, waitOf, hfailed, hready, Bool.false_eq_true, if_false,
        if_true]
    rw [hloop]
    exact .pure _
  have hloop : Calmly (w.loop .wait refresh (left + 1) 0 first) (.ready state, 1) := by
    rw [Wait.loop, if_neg (by rw [hfirst.1]; exact Bool.false_ne_true),
      if_neg (by rw [hfirst.2]; exact Bool.false_ne_true)]
    simp only [if_true]
    exact .bind (.note _) (.bind (.pause _) (.bind (.note _) (.bind hrefresh hlast)))
  have hrun : c.waitFor operation condition ready failed goneIsReady refresh first =
      w.run .wait refresh first := by rw [← hw]; rfl
  rw [hrun, Wait.run, hleft]
  refine .get_bind fun world => .bind (.lift hloop) ?_
  have hended : Yields (modify fun world' : World Event γ =>
      world'.note (.wait (.ended w.condition .satisfied (world'.now - world.now))) : Flow γ Unit)
      (.ok ()) := fun _ h => ⟨rfl, h.of_eq rfl rfl⟩
  exact .bind hended (.bind (.note _) (.pure _))

end Yields

end Lifecycle

end BlockStorage
