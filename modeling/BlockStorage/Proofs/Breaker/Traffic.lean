import BlockStorage.Retry

/-!
# Calls that overlap at a breaker

Calls arrive at a breaker and settle there, in any order. Only a call that was let
through has its attempt made, and only such a call settles, once, in whatever state
the breaker is by then.

* `Traffic`: a breaker and the calls that are underway.
* `Traffic.after`: one moment; `Traffic.run`: one after the other.
* `Breaker.TurnsAway`, `Breaker.LetsThrough`: what a rejected and an admitted arrival
  mean for `RetryPolicy.guarded`, the call that the library makes.
-/

namespace BlockStorage

open RetryPolicy (reportCircuit)

/-- What happens to a call at a breaker. -/
inductive Happening
  | arrives
  /-- Its attempt ends, with a fault or without. -/
  | settles (fault : Option Fault)

/-- Something that happens to a call, and when. -/
structure Moment where
  now : Float
  call : Nat
  what : Happening

/-- A breaker and those that it has let through. -/
structure Traffic where
  breaker : Breaker
  /-- The calls whose attempts are being made. -/
  underway : List Nat := []

namespace Traffic

/-- What a moment leaves behind. A call that is not underway does not settle. -/
def after (s : Traffic) (m : Moment) : Traffic :=
  match m.what with
  | .arrives =>
    match s.breaker.arrive m.now with
    | (.passed, b, _) => ⟨b, m.call :: s.underway⟩
    | (.rejected _, b, _) => ⟨b, s.underway⟩
  | .settles fault =>
    if m.call ∈ s.underway then ⟨(s.breaker.settle m.now fault).1, s.underway.erase m.call⟩ else s

/-- What moments leave behind, one after the other. -/
def run (s : Traffic) (ms : List Moment) : Traffic := ms.foldl after s

@[simp] theorem run_nil (s : Traffic) : s.run [] = s := rfl

@[simp] theorem run_cons (s : Traffic) (m : Moment) (ms : List Moment) :
    s.run (m :: ms) = (s.after m).run ms := rfl

@[simp] theorem run_append (s : Traffic) (ms ms' : List Moment) :
    s.run (ms ++ ms') = (s.run ms).run ms' := List.foldl_append

/-- What a moment leaves holds of a run if each moment keeps it. -/
theorem run_induction {P : Traffic → Prop} {s : Traffic} {ms : List Moment} (start : P s)
    (step : ∀ s, P s → ∀ m ∈ ms, P (s.after m)) : P (s.run ms) := by
  induction ms generalizing s with
  | nil => exact start
  | cons m ms ih =>
    exact ih (step s start m List.mem_cons_self)
      fun s hs m' hm' => step s hs m' (List.mem_cons_of_mem m hm')

end Traffic

/-! ## What an arrival means for the attempt -/

/-- What follows an attempt behind a breaker: it settles there. -/
def RetryPolicy.conclude {χ α : Type} (p : RetryPolicy) (outcome : Except Fault α) :
    StateM (World WireEvent (Wire χ)) (Except Fault α) := do
  let w ← get
  if let some b := w.remote.breaker? p.circuit then
    let fault := match outcome with
      | .ok _ => none
      | .error f => some f
    let (b, events) := b.settle w.now fault
    p.writeBreaker b
    reportCircuit events
  return outcome

namespace RetryPolicy

variable {χ α : Type} {p : RetryPolicy} {w : World WireEvent (Wire χ)} {b b' : Breaker}
  {retryAfter : Float} {events : List CircuitEvent}

theorem conclude_fst (outcome : Except Fault α) (w : World WireEvent (Wire χ)) :
    ((p.conclude outcome).run w).1 = outcome := by
  unfold conclude
  rw [StateT.run_bind, StateT.run_get]
  simp only [pure_bind]
  cases w.remote.breaker? p.circuit <;> rfl

theorem conclude_remote (hb : w.remote.breaker? p.circuit = some b) (outcome : Except Fault α) :
    ((p.conclude outcome).run w).2.remote =
      w.remote.putBreaker p.circuit (b.settle w.now (match outcome with
        | .ok _ => none
        | .error f => some f)).1 := by
  unfold conclude
  rw [StateT.run_bind, StateT.run_get]
  simp only [pure_bind, hb]
  rfl

theorem guarded_bare (hb : w.remote.breaker? p.circuit = none)
    (attempt : Run (World WireEvent (Wire χ)) α) :
    (p.guarded attempt).run w = attempt.run.run w := by
  unfold guarded
  rw [StateT.run_bind, StateT.run_get]
  simp only [pure_bind, hb]

theorem guarded_passed (hb : w.remote.breaker? p.circuit = some b)
    (h : b.arrive w.now = (.passed, b', events)) (attempt : Run (World WireEvent (Wire χ)) α) :
    (p.guarded attempt).run w = (attempt.run >>= p.conclude).run
      { w with
        remote := w.remote.putBreaker p.circuit b'
        journal := w.journal ++ events.map .circuit } := by
  unfold guarded
  rw [StateT.run_bind, StateT.run_get]
  simp only [pure_bind, hb, h]
  rfl

theorem guarded_rejected (hb : w.remote.breaker? p.circuit = some b)
    (h : b.arrive w.now = (.rejected retryAfter, b, [.rejected b.name retryAfter]))
    (attempt : Run (World WireEvent (Wire χ)) α) :
    (p.guarded attempt).run w =
      (.error (.circuitOpen b.name (.real retryAfter)),
        { w with
          remote := w.remote.putBreaker p.circuit b
          journal := w.journal ++ [.circuit (.rejected b.name retryAfter)] }) := by
  unfold guarded
  rw [StateT.run_bind, StateT.run_get]
  simp only [pure_bind, hb, h]
  rfl

end RetryPolicy

namespace Breaker

/-- A call that arrives at this time is told when to come back. Nothing of its attempt is in what
it leaves behind. -/
def TurnsAway (b : Breaker) (now retryAfter : Float) : Prop :=
  ∀ (χ α : Type) (p : RetryPolicy) (w : World WireEvent (Wire χ)), w.now = now →
    w.remote.breaker? p.circuit = some b →
      ∀ attempt : Run (World WireEvent (Wire χ)) α,
        (p.guarded attempt).run w =
          (.error (.circuitOpen b.name (.real retryAfter)),
            { w with
              remote := w.remote.putBreaker p.circuit b
              journal := w.journal ++ [.circuit (.rejected b.name retryAfter)] })

/-- The attempt of a call that arrives at this time is made, with the breaker as `b'`. -/
def LetsThrough (b : Breaker) (now : Float) (b' : Breaker) : Prop :=
  ∀ (χ α : Type) (p : RetryPolicy) (w : World WireEvent (Wire χ)), w.now = now →
    w.remote.breaker? p.circuit = some b →
      ∃ events, ∀ attempt : Run (World WireEvent (Wire χ)) α,
        (p.guarded attempt).run w =
          (attempt.run >>= p.conclude).run
            { w with
              remote := w.remote.putBreaker p.circuit b'
              journal := w.journal ++ events }

variable {b b' : Breaker} {now retryAfter : Float} {events : List CircuitEvent}

theorem turnsAway_of_arrive
    (h : b.arrive now = (.rejected retryAfter, b, [.rejected b.name retryAfter])) :
    b.TurnsAway now retryAfter := by
  rintro χ α p w rfl hb attempt
  exact RetryPolicy.guarded_rejected hb h attempt

theorem letsThrough_of_arrive (h : b.arrive now = (.passed, b', events)) :
    b.LetsThrough now b' := by
  rintro χ α p w rfl hb
  exact ⟨events.map .circuit, RetryPolicy.guarded_passed hb h⟩

end Breaker

end BlockStorage
