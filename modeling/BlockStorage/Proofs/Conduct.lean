import BlockStorage.Proofs.Journal

/-!
# Conduct

What a step of the caller does is told by two things: the events that it reports,
of which only some may be of interest, and its answer. `Does keep step Q` says that
`Q` relates the two whatever world the step begins in, and that strays do nothing
new because of it.

* `Does.bind`, `Does.run_bind`: of a step and what follows it.
* `Does.note`, `Does.finish`: of an event, and of a call that is run to its end.
-/

namespace BlockStorage

variable {ε γ α β : Type} {keep : ε → Bool}

/-- Whatever the world, `Q` holds of the kept events that a step reports and of its answer. -/
def Does (keep : ε → Bool) (step : StateM (World ε γ) α) (Q : List ε → α → Prop) : Prop :=
  ∀ w, ∃ own, w.Grows own (step w).2 ∧ Q (own.filter keep) (step w).1

namespace Does

theorem mono {step : StateM (World ε γ) α} {P Q : List ε → α → Prop} (h : Does keep step P)
    (hm : ∀ es a, P es a → Q es a) : Does keep step Q := by
  intro w
  obtain ⟨own, hw, hP⟩ := h w
  exact ⟨own, hw, hm _ _ hP⟩

theorem pure {Q : List ε → α → Prop} (a : α) (h : Q [] a) :
    Does keep (Pure.pure a : StateM (World ε γ) α) Q := fun w => ⟨[], .refl w, h⟩

theorem bind {step : StateM (World ε γ) α} {next : α → StateM (World ε γ) β}
    {Q : List ε → β → Prop}
    (h : Does keep step fun es a => Does keep (next a) fun fs b => Q (es ++ fs) b) :
    Does keep (step >>= next) Q := by
  intro w
  obtain ⟨own, hw, hnext⟩ := h w
  obtain ⟨own', hw', hQ⟩ := hnext (step w).2
  refine ⟨own ++ own', hw.trans hw', ?_⟩
  rw [List.filter_append]
  exact hQ

/-- A step that is made only where something holds, before others. -/
theorem ite_bind {c : Prop} [Decidable c] {first : StateM (World ε γ) PUnit}
    {rest : StateM (World ε γ) α} {P Q : List ε → α → Prop} (hrest : Does keep rest P)
    (hfirst : c → Does keep first fun es _ => ∀ fs a, P fs a → Q (es ++ fs) a)
    (hskip : ¬ c → ∀ fs a, P fs a → Q fs a) :
    Does keep (if c then first >>= fun _ => rest else rest) Q := by
  split
  · next h => exact bind ((hfirst h).mono fun es _ hes => hrest.mono (hes ·))
  · next h => exact hrest.mono (hskip h)

/-- The world may be looked at. -/
theorem get {Q : List ε → World ε γ → Prop} (h : ∀ w, Q [] w) :
    Does keep (MonadState.get : StateM (World ε γ) (World ε γ)) Q := fun w => ⟨[], .refl w, h w⟩

/-- Writing events into the journal reports them. -/
theorem noteAll {Q : List ε → Unit → Prop} (es : List ε) (h : Q (es.filter keep) ()) :
    Does keep (modify (World.noteAll es) : StateM (World ε γ) Unit) Q :=
  fun w => ⟨es, w.grows_noteAll es, h⟩

theorem note {Q : List ε → Unit → Prop} (e : ε) (h : Q ([e].filter keep) ()) :
    Does keep (modify (World.note e) : StateM (World ε γ) Unit) Q := noteAll [e] h

/-- A change that leaves journal and strays alone reports nothing. -/
theorem silent {step : StateM (World ε γ) α} {Q : List ε → α → Prop}
    (hj : ∀ w, (step w).2.journal = w.journal) (hs : ∀ w, (step w).2.strays = w.strays)
    (h : ∀ w, Q [] (step w).1) : Does keep step Q :=
  fun w => ⟨[], .of_eq (hj w) (hs w), h w⟩

/-- A call that is run to its end reports what one of its runs does. -/
theorem finish {pauses : Nat} {Q : List ε → α → Prop} (leg : Float → γ → Leg ε γ α pauses)
    (h : ∀ now remote trace a, (leg now remote).Runs trace a → Q (trace.filter keep) a) :
    Does keep (fun w => (leg w.now w.remote).finish w) Q := by
  intro w
  obtain ⟨own, hruns, hgrows⟩ := (leg w.now w.remote).finish_grows w
  exact ⟨own, hgrows, h _ _ _ _ hruns⟩

/-! ## Steps that may fail -/

theorem run_pure {Q : List ε → Except Fault α → Prop} (a : α) (h : Q [] (.ok a)) :
    Does keep (Pure.pure a : Run (World ε γ) α).run Q := fun w => ⟨[], .refl w, h⟩

theorem run_throw {Q : List ε → Except Fault α → Prop} (f : Fault) (h : Q [] (.error f)) :
    Does keep (throw f : Run (World ε γ) α).run Q := fun w => ⟨[], .refl w, h⟩

theorem run_get {Q : List ε → Except Fault (World ε γ) → Prop} (h : ∀ w, Q [] (.ok w)) :
    Does keep (MonadState.get : Run (World ε γ) (World ε γ)).run Q := fun w => ⟨[], .refl w, h w⟩

/-- A step that cannot fail. -/
theorem run_lift {step : StateM (World ε γ) α} {Q : List ε → Except Fault α → Prop}
    (h : Does keep step fun es a => Q es (.ok a)) :
    Does keep (liftM step : Run (World ε γ) α).run Q := h

/-- A step and what follows it: after a failure nothing follows. -/
theorem run_bind {step : Run (World ε γ) α} {next : α → Run (World ε γ) β}
    {Q : List ε → Except Fault β → Prop}
    (h : Does keep step.run fun es r => match r with
      | .ok a => Does keep (next a).run fun fs s => Q (es ++ fs) s
      | .error f => Q es (.error f)) :
    Does keep (step >>= next).run Q := by
  change Does keep (step.run >>= ExceptT.bindCont next) Q
  refine bind (h.mono fun es r hr => ?_)
  cases r with
  | ok a => exact hr
  | error f =>
    refine pure _ ?_
    rw [List.append_nil]
    exact hr

theorem run_outcome {step : Run (World ε γ) α}
    {Q : List ε → Except Fault (Except Fault α) → Prop}
    (h : Does keep step.run fun es r => Q es (.ok r)) : Does keep (Run.outcome step).run Q := h

theorem run_note {Q : List ε → Except Fault Unit → Prop} (e : ε)
    (h : Q ([e].filter keep) (.ok ())) :
    Does keep (modify (World.note e) : Run (World ε γ) Unit).run Q :=
  fun w => ⟨[e], w.grows_note e, h⟩

end Does

end BlockStorage
