import BlockStorage.Proofs.Breaker.Move
import BlockStorage.Proofs.Breaker.Shield
import BlockStorage.Proofs.Retry

/-!
# Permanent failures go unnoticed

A call that fails permanently says nothing about the health of the provider. Its arrival
may half-open a circuit that is due, but then the next call would have done that as well.
So the calls that are left get through, or are told when to come back, just as if it had
not been made.

* `Fault.IsPermanent`: the permanent failures.
* `Breaker.serve`: a call that has the circuit for itself; `Breaker.log`, `Breaker.served`:
  calls one after the other. `RetryPolicy.guardedAll_served`: guarded calls are such calls.
* `Breaker.Trails`: a circuit that has seen the calls that fail permanently, and one that
  has not. `Breaker.Trails.serve`, `Breaker.Trails.moot`: what one call does to them.
* `Breaker.log_unnoticed`: what a run of calls does.
-/

namespace BlockStorage

/-! ## Permanent failures -/

namespace Fault

/-- The failures that would come again: of what does not exist, of what is malformed, and those with
a code that stands for them. -/
inductive IsPermanent : Fault → Prop
  | notFound (resource : String) (text : Option String) : IsPermanent (.notFound resource text)
  | argument (why : BadArgument) : IsPermanent (.argument why)
  | missing {r : Rejection} (h : ".NotFound".toList <:+ r.codeOrEmpty.toList) :
      IsPermanent (.rejected r)
  | malformed {r : Rejection} (h : ".Malformed".toList <:+ r.codeOrEmpty.toList) :
      IsPermanent (.rejected r)
  | refused {r : Rejection} (h : r.codeOrEmpty ∈ Rejection.permanentCodes) :
      IsPermanent (.rejected r)

/-- None of the codes of failures that may pass is the code of a permanent one. -/
theorem not_permanent_of_retryable {code : String} (h : code ∈ Rejection.retryableCodes) :
    (Rejection.permanentCodes.contains code || Rejection.isNotFoundCode code ||
      Rejection.isMalformedCode code) = false := by
  have hnone : ∀ code ∈ Rejection.retryableCodes, (Rejection.permanentCodes.contains code ||
    Rejection.isNotFoundCode code || Rejection.isMalformedCode code) = false := by decide
  exact hnone code h

theorem isPermanent_rejected_iff {r : Rejection} :
    (rejected r).IsPermanent ↔
      (Rejection.permanentCodes.contains r.codeOrEmpty || Rejection.isNotFoundCode r.codeOrEmpty ||
        Rejection.isMalformedCode r.codeOrEmpty) = true := by
  simp only [Bool.or_eq_true, List.contains_iff_mem, Rejection.isNotFoundCode,
    Rejection.isMalformedCode, List.isSuffixOf_iff_suffix]
  constructor
  · intro h
    cases h with
    | missing h => exact .inl (.inr h)
    | malformed h => exact .inr h
    | refused h => exact .inl (.inl h)
  · rintro ((h | h) | h)
    · exact .refused h
    · exact .missing h
    · exact .malformed h

theorem classify_eq_permanent_iff {f : Fault} : f.classify = .permanent ↔ f.IsPermanent := by
  cases f with
  | notFound resource text => exact iff_of_true rfl (.notFound resource text)
  | argument why => exact iff_of_true rfl (.argument why)
  | rejected r =>
    rw [isPermanent_rejected_iff, classify, Rejection.verdict]
    split
    · next h =>
      rw [not_permanent_of_retryable (List.contains_iff_mem.mp h)]
      exact iff_of_false Verdict.noConfusion Bool.false_ne_true
    · split
      · next h => exact iff_of_true rfl h
      · next h => exact iff_of_false Verdict.noConfusion h
  | transport t =>
    refine iff_of_false ?_ (by rintro ⟨⟩)
    cases t <;> exact Verdict.noConfusion
  | _ => exact iff_of_false Verdict.noConfusion (by rintro ⟨⟩)

instance (f : Fault) : Decidable f.IsPermanent := decidable_of_iff _ classify_eq_permanent_iff

end Fault

/-! ## Calls one after the other -/

/-- A call that has a circuit for itself: when it arrives, and when and with what fault, if any, its
attempt ends once it is made. -/
structure Call where
  arrives : Float
  settles : Float
  fault : Option Fault := none

namespace Call

/-- When something happens in a run of calls. -/
def clock (cs : List Call) : List Float := cs.flatMap fun c => [c.arrives, c.settles]

def FailsPermanently (c : Call) : Prop := ∃ f, c.fault = some f ∧ f.IsPermanent

instance (c : Call) : Decidable c.FailsPermanently :=
  decidable_of_iff (c.fault.any fun f => f.IsPermanent) (by
    rw [FailsPermanently]
    cases c.fault <;> simp)

/-- What the attempt comes to. -/
def result (c : Call) : Except Fault Unit :=
  match c.fault with
  | none => .ok ()
  | some f => .error f

/-- The attempt. -/
def attempt {χ : Type} (c : Call) : Run (World WireEvent (Wire χ)) Unit := ExceptT.mk do
  modify (World.runTo c.settles)
  return c.result

end Call

namespace Arrival

def isPassed : Arrival → Bool
  | passed => true
  | rejected _ => false

end Arrival

namespace Breaker

/-- What becomes of a call, and of the circuit. -/
def serve (b : Breaker) (c : Call) : Arrival × Breaker :=
  match b.arrive c.arrives with
  | (.passed, b, _) => (.passed, (b.settle c.settles c.fault).1)
  | (.rejected retryAfter, b, _) => (.rejected retryAfter, b)

/-- What becomes of calls. -/
def log (b : Breaker) : List Call → List (Call × Arrival)
  | [] => []
  | c :: cs => (c, (b.serve c).1) :: log (b.serve c).2 cs

/-- What becomes of the circuit. -/
def served (b : Breaker) (cs : List Call) : Breaker := cs.foldl (fun b c => (b.serve c).2) b

/-- Whether the attempt of a call was made, and failed permanently. -/
def isMoot (x : Call × Arrival) : Bool := x.2.isPassed && x.1.FailsPermanently

/-- The calls without those that failed permanently. -/
def noticed (b : Breaker) (cs : List Call) : List Call :=
  ((b.log cs).filter fun x => !isMoot x).map Prod.fst

variable {b b' : Breaker} {c : Call} {cs : List Call} {now : Float}

theorem serve_passed {events : List CircuitEvent} (h : b.arrive c.arrives = (.passed, b', events)) :
    b.serve c = (.passed, (b'.settle c.settles c.fault).1) := by
  rw [serve, h]

theorem serve_rejected {retryAfter : Float} {events : List CircuitEvent}
    (h : b.arrive c.arrives = (.rejected retryAfter, b', events)) :
    b.serve c = (.rejected retryAfter, b') := by
  rw [serve, h]

/-- What a circuit is called and how it tells permanent failures stays the same. -/
theorem serve_fixed (b : Breaker) (c : Call) :
    (b.serve c).2.name = b.name ∧ (b.serve c).2.classify = b.classify := by
  have harrive := b.move_arrive c.arrives
  rw [serve]
  generalize b.arrive c.arrives = x at harrive ⊢
  obtain ⟨arrival, after, events⟩ := x
  cases arrival with
  | passed =>
    have hsettle := after.move_settle c.settles c.fault
    exact ⟨hsettle.name.trans harrive.name, hsettle.classify.trans harrive.classify⟩
  | rejected => exact ⟨harrive.name, harrive.classify⟩

end Breaker

/-! ### What guarded calls do -/

theorem Wire.breaker?_putBreaker {χ : Type} {w : Wire χ} {circuit : Circuit} {b₀ : Breaker}
    (h : w.breaker? circuit = some b₀) (b : Breaker) :
    (w.putBreaker circuit b).breaker? circuit = some b := by
  cases circuit with
  | none => cases h
  | own => rfl
  | shared name =>
    change (w.shared.map fun e => if e.1 = name then (name, b) else e).lookup name = some b
    replace h : w.shared.lookup name = some b₀ := h
    generalize w.shared = es at h ⊢
    induction es with
    | nil => cases h
    | cons e es ih =>
      obtain ⟨key, other⟩ := e
      by_cases hkey : key = name
      · simp [hkey]
      · have hne : (name == key) = false := by simpa using Ne.symm hkey
        rw [List.lookup_cons, hne] at h
        rw [List.map_cons, if_neg hkey, List.lookup_cons, hne]
        exact ih h

/-- What a call comes to behind a circuit. -/
def Call.answer (c : Call) (circuit : String) : Arrival → Except Fault Unit
  | .passed => c.result
  | .rejected retryAfter => .error (.circuitOpen circuit (.real retryAfter))

theorem RetryPolicy.concluded_serve {χ : Type} {p : RetryPolicy} {w : World WireEvent (Wire χ)}
    {b : Breaker} (hb : w.remote.breaker? p.circuit = some b) (c : Call) :
    ((c.attempt.run >>= p.conclude).run w).1 = c.result ∧
      ((c.attempt.run >>= p.conclude).run w).2.remote.breaker? p.circuit =
        some (b.settle c.settles c.fault).1 := by
  change ((p.conclude c.result).run (w.runTo c.settles)).1 = c.result ∧
    ((p.conclude c.result).run (w.runTo c.settles)).2.remote.breaker? p.circuit = _
  have hb : (w.runTo c.settles).remote.breaker? p.circuit = some b := hb
  rw [conclude_fst, conclude_remote hb, Wire.breaker?_putBreaker hb]
  refine ⟨rfl, ?_⟩
  rw [Call.result]
  cases c.fault <;> rfl

/-- A guarded call is served by the circuit. -/
theorem RetryPolicy.guarded_serve {χ : Type} {p : RetryPolicy} {w : World WireEvent (Wire χ)}
    {b : Breaker} (hb : w.remote.breaker? p.circuit = some b) (c : Call) :
    ((p.guarded c.attempt).run (w.runTo c.arrives)).1 = c.answer b.name (b.serve c).1 ∧
      ((p.guarded c.attempt).run (w.runTo c.arrives)).2.remote.breaker? p.circuit =
        some (b.serve c).2 := by
  obtain ⟨b', events, h, -⟩ | ⟨retryAfter, h⟩ := b.arrive_cases c.arrives
  · rw [guarded_passed (w := w.runTo c.arrives) hb h, Breaker.serve_passed h]
    exact concluded_serve (Wire.breaker?_putBreaker hb b') c
  · rw [guarded_rejected (w := w.runTo c.arrives) hb h, Breaker.serve_rejected h]
    exact ⟨rfl, Wire.breaker?_putBreaker hb b⟩

/-- Guarded calls, one after the other. -/
def RetryPolicy.guardedAll {χ : Type} (p : RetryPolicy) :
    List Call → StateM (World WireEvent (Wire χ)) (List (Except Fault Unit))
  | [] => return []
  | c :: cs => do
    modify (World.runTo c.arrives)
    let result ← p.guarded c.attempt
    return result :: (← guardedAll p cs)

/-- **Guarded calls are served by the circuit**, and come to what the circuit makes of them. -/
theorem RetryPolicy.guardedAll_served {χ : Type} {p : RetryPolicy} {w : World WireEvent (Wire χ)}
    {b : Breaker} (hb : w.remote.breaker? p.circuit = some b) (cs : List Call) :
    ((p.guardedAll cs).run w).1 = (b.log cs).map (fun x => x.1.answer b.name x.2) ∧
      ((p.guardedAll cs).run w).2.remote.breaker? p.circuit = some (b.served cs) := by
  induction cs generalizing w b with
  | nil => exact ⟨rfl, hb⟩
  | cons c cs ih =>
    obtain ⟨hanswer, hserved⟩ := guarded_serve hb c
    obtain ⟨hanswers, hall⟩ := ih hserved
    refine ⟨?_, hall⟩
    rw [Breaker.log, List.map_cons, ← hanswer, ← (b.serve_fixed c).1, ← hanswers]
    rfl

/-! ## Two circuits -/

namespace Breaker

variable {b b' : Breaker} {c : Call} {cs : List Call} {now later : Float}

/-- The circuit once a call has half-opened it. -/
def probed (b : Breaker) : Breaker := { b with successes := 0, state := .halfOpen }

theorem probed_ne_opened (b : Breaker) : b.probed.state ≠ .opened := CircuitState.noConfusion

theorem arrive_due (hopen : b.state = .opened) (due : ¬0.0 < b.remaining now) :
    b.arrive now = (.passed, b.probed, [.changed b.name b.state .halfOpen .none]) := by
  rw [arrive, if_pos hopen, if_neg due]
  rfl

/-- A circuit that has seen calls fail permanently, and one that has not: they are the same, or
those calls have half-opened the first, and the other is still open, but due. -/
inductive Trails (now : Float) : Breaker → Breaker → Prop
  | same (b : Breaker) : Trails now b b
  | ahead {b : Breaker} (hopen : b.state = .opened) (due : ¬0.0 < b.remaining now) :
      Trails now b.probed b

/-- A circuit that is due remains so. -/
theorem Trails.mono (h : Trails now b b') (hle : now ≤ later) : Trails later b b' := by
  cases h with
  | same => exact .same _
  | ahead hopen due => exact .ahead hopen fun early => due (Double.zero_lt_sub.mpr
      (Double.sub_lt_of_le hle (Double.zero_lt_sub.mp early)))

/-- An arrival half-opens the other circuit as well. -/
theorem Trails.arrive (h : Trails now b b') :
    (b.arrive now).1 = (b'.arrive now).1 ∧ (b.arrive now).2.1 = (b'.arrive now).2.1 := by
  cases h with
  | same => exact ⟨rfl, rfl⟩
  | ahead hopen due =>
    rw [arrive_of_ne_opened b'.probed_ne_opened, arrive_due hopen due]
    exact ⟨rfl, rfl⟩

/-- **A call finds no difference**, and leaves none. -/
theorem Trails.serve (h : Trails c.arrives b b') : b.serve c = b'.serve c := by
  obtain ⟨harrival, hbreaker⟩ := h.arrive
  rw [Breaker.serve, Breaker.serve]
  generalize b.arrive c.arrives = x at harrival hbreaker
  generalize b'.arrive c.arrives = y at harrival hbreaker
  obtain ⟨arrival, after, events⟩ := x
  obtain ⟨arrival', after', events'⟩ := y
  obtain rfl : arrival = arrival' := harrival
  obtain rfl : after = after' := hbreaker
  cases arrival <;> rfl

/-! ### Calls that fail permanently -/

/-- Where a permanent failure settles, it leaves nothing behind. -/
theorem settle_permanent (hclassify : b.classify = some Fault.classify) (h : c.FailsPermanently) :
    (b.settle now c.fault).1 = b := by
  obtain ⟨f, hf, hpermanent⟩ := h
  have hignores : b.ignores f = true := by
    rw [ignores, hclassify]
    simpa using Fault.classify_eq_permanent_iff.mpr hpermanent
  rw [hf, settle]
  dsimp only
  rw [if_pos hignores]
  split <;> rfl

theorem serve_permanent_of_ne_opened (hclassify : b.classify = some Fault.classify)
    (h : c.FailsPermanently) (hstate : b.state ≠ .opened) : b.serve c = (.passed, b) := by
  rw [serve_passed (arrive_of_ne_opened hstate c.arrives), settle_permanent hclassify h]

/-- **A call that fails permanently leaves a circuit behind that trails what it found.** -/
theorem Trails.moot (hclassify : b.classify = some Fault.classify) (h : Trails c.arrives b b')
    (hpassed : (b.serve c).1.isPassed = true) (hc : c.FailsPermanently) :
    Trails c.arrives (b.serve c).2 b' := by
  cases h with
  | ahead hopen due =>
    rw [serve_permanent_of_ne_opened hclassify hc b'.probed_ne_opened]
    exact .ahead hopen due
  | same =>
    by_cases hopen : b.state = .opened
    · by_cases early : 0.0 < b.remaining c.arrives
      · have hrejected : b.arrive c.arrives = (.rejected (b.remaining c.arrives), b,
            [.rejected b.name (b.remaining c.arrives)]) := by
          rw [Breaker.arrive, if_pos hopen, if_pos early]
        rw [serve_rejected hrejected] at hpassed
        cases hpassed
      · have hprobed : b.probed.classify = some Fault.classify := hclassify
        rw [serve_passed (arrive_due hopen early), settle_permanent hprobed hc]
        exact .ahead hopen early
    · rw [serve_permanent_of_ne_opened hclassify hc hopen]
      exact .same b

/-! ## Runs -/

theorem noticed_cons_of_moot (h : isMoot (c, (b.serve c).1) = true) :
    b.noticed (c :: cs) = (b.serve c).2.noticed cs := by
  rw [noticed, log, List.filter_cons_of_neg (by simp [h]), noticed]

theorem noticed_cons (h : isMoot (c, (b.serve c).1) = false) :
    b.noticed (c :: cs) = c :: (b.serve c).2.noticed cs := by
  rw [noticed, log, List.filter_cons_of_pos (by simp [h]), noticed]
  rfl

/-- Two circuits that differ in that only go on so, one with all calls and one with those that do
not fail permanently. -/
theorem Trails.log (hclassify : b.classify = some Fault.classify)
    (hclock : (Call.clock cs ++ [now]).Pairwise (· ≤ ·))
    (h : ∀ t ∈ Call.clock cs ++ [now], Trails t b b') :
    b'.log (b.noticed cs) = (b.log cs).filter (fun x => !isMoot x) ∧
      Trails now (b.served cs) (b'.served (b.noticed cs)) := by
  induction cs generalizing b b' with
  | nil => exact ⟨rfl, h now (by simp [Call.clock])⟩
  | cons c cs ih =>
    have hcons : Call.clock (c :: cs) ++ [now] =
        c.arrives :: c.settles :: (Call.clock cs ++ [now]) := rfl
    rw [hcons, List.pairwise_cons, List.pairwise_cons] at hclock
    rw [hcons] at h
    obtain ⟨hle, -, hrest⟩ := hclock
    have hnow := h _ List.mem_cons_self
    have hclassify' := (b.serve_fixed c).2.trans hclassify
    cases hmoot : isMoot (c, (b.serve c).1) with
    | true =>
      obtain ⟨hpassed, hc⟩ := Bool.and_eq_true_iff.mp hmoot
      have hmoved := hnow.moot hclassify hpassed (of_decide_eq_true hc)
      have hafter : ∀ t ∈ Call.clock cs ++ [now], Trails t (b.serve c).2 b' := fun t ht =>
        hmoved.mono (hle t (List.mem_cons_of_mem _ ht))
      rw [noticed_cons_of_moot hmoot, Breaker.log, List.filter_cons_of_neg (by simp [hmoot])]
      exact ih hclassify' hrest hafter
    | false =>
      obtain ⟨hlog, htrails⟩ := ih hclassify' hrest fun t _ => .same _
      rw [noticed_cons hmoot, Breaker.log, Breaker.log, List.filter_cons_of_pos (by simp [hmoot]),
        ← hnow.serve, hlog]
      refine ⟨rfl, ?_⟩
      rw [served, served, List.foldl_cons, List.foldl_cons, ← hnow.serve]
      exact htrails

theorem served_permanent (hclassify : b.classify = some Fault.classify) (hstate : b.state ≠ .opened)
    (h : ∀ c ∈ cs, c.FailsPermanently) : b.served cs = b := by
  induction cs with
  | nil => rfl
  | cons c cs ih =>
    obtain ⟨hc, hcs⟩ := List.forall_mem_cons.mp h
    rw [served, List.foldl_cons, serve_permanent_of_ne_opened hclassify hc hstate]
    exact ih hcs

/-- **Calls that fail permanently go unnoticed.** Without them every other call of a run gets
through or is told when to come back just the same, and the circuit ends up as the one that has seen
them, unless they have half-opened that one. Alone they do nothing to a circuit that is not open. -/
theorem log_unnoticed (b : Breaker) (hclassify : b.classify = some Fault.classify) (cs : List Call)
    (now : Float) (hclock : (Call.clock cs ++ [now]).Pairwise (· ≤ ·)) :
    b.log (b.noticed cs) = (b.log cs).filter (fun x => !isMoot x) ∧
      Trails now (b.served cs) (b.served (b.noticed cs)) ∧
      (b.state ≠ .opened → (∀ c ∈ cs, c.FailsPermanently) → b.served cs = b) := by
  have hsame : ∀ t ∈ Call.clock cs ++ [now], Trails t b b := fun t _ => .same b
  obtain ⟨hlog, htrails⟩ := Trails.log hclassify hclock hsame
  exact ⟨hlog, htrails, fun hstate h => served_permanent hclassify hstate h⟩

/-! ### A volume that is gone -/

/-- A circuit that opens at the first failure. -/
def brittle : Breaker := { failureThreshold := 1, timeout := 10.0, classify := some Fault.classify }

/-- A failure that opens the circuit, a call that is rejected, and, when the circuit is due, one for
a volume that is gone. -/
def vanishing : List Call :=
  [{ arrives := 0.0, settles := 1.0, fault := some (.timedOut "") },
    { arrives := 5.0, settles := 5.0 },
    { arrives := 20.0, settles := 21.0, fault := some (.notFound "vol-1" none) }]

/-- The last call has half-opened the circuit. Without it the circuit would still be open. -/
theorem vanishing_unnoticed :
    brittle.log (vanishing.take 2) = (brittle.log vanishing).filter (fun x => !isMoot x) ∧
      Trails 30.0 (brittle.served vanishing) (brittle.served (vanishing.take 2)) ∧
      (brittle.served vanishing).state = .halfOpen ∧
      (brittle.served (vanishing.take 2)).state = .opened := by
  have hnoticed : brittle.noticed vanishing = vanishing.take 2 := rfl
  have hclock : (Call.clock vanishing ++ [30.0]).Pairwise (· ≤ ·) := by decide
  obtain ⟨hlog, htrails, -⟩ := log_unnoticed brittle rfl vanishing 30.0 hclock
  rw [hnoticed] at hlog htrails
  exact ⟨hlog, htrails, rfl, rfl⟩

end Breaker

end BlockStorage
