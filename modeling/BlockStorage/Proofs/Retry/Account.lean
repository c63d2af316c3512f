import BlockStorage.Proofs.Leg
import BlockStorage.Retry

/-!
# The account of a retried call

A retried call is an attempt after another until one ends it. Nothing is left open in
its account but what each attempt finds when it begins: the time and the wire after a
pause may be any, and all else follows from them.

* `Start`: what an attempt finds; `RetryPolicy.tried`: what it then comes to.
* `RetryPolicy.Repeated`: an attempt that another one follows, after a pause.
* `RetryPolicy.Ends`: how an attempt ends the call.
* `RetryPolicy.Account`: the attempts of a call.
* `RetryPolicy.run_rests_iff`: a call has a run exactly if that tells an account of it.
-/

namespace BlockStorage

variable {χ α β : Type}

/-- What an attempt finds when it begins. -/
structure Start (χ : Type) where
  now : Float
  wire : Wire χ

/-- The world in which the attempt is made. -/
def Start.world (s : Start χ) : World WireEvent (Wire χ) := { now := s.now, remote := s.wire }

/-- An attempt that failed, and the pause after it. -/
structure Failure (χ : Type) where
  start : Start χ
  why : Fault
  delay : Float

namespace RetryPolicy

variable (p : RetryPolicy) (attempt : Run (World WireEvent (Wire χ)) α)

/-- Whether a failure is one that may be followed by another attempt. -/
def Repeats (why : Fault) : Prop :=
  isFinal why = false ∧ p.judge why = .retryable

instance (why : Fault) : Decidable (p.Repeats why) := inferInstanceAs (Decidable (_ ∧ _))

/-- What may be followed by another attempt: what the judge takes for passing, but no rejection by
the breaker and no abort of the task. -/
theorem repeats_iff {why : Fault} : p.Repeats why ↔ p.judge why = .retryable ∧
    (∀ name retryAfter, why ≠ .circuitOpen name retryAfter) ∧ why ≠ .aborted := by
  rw [Repeats, ← Bool.not_eq_true, isFinal_iff, not_or, not_exists, and_comm]
  simp only [not_exists, ne_eq]

@[simp] theorem not_repeats_circuitOpen (name : String) (retryAfter : Amount) :
    ¬ p.Repeats (.circuitOpen name retryAfter) :=
  fun h => (p.repeats_iff.mp h).2.1 _ _ rfl

@[simp] theorem not_repeats_aborted : ¬ p.Repeats .aborted :=
  fun h => (p.repeats_iff.mp h).2.2 rfl

/-- What an attempt behind the breaker comes to, and the world that it leaves. -/
def tried (s : Start χ) : Except Fault α × World WireEvent (Wire χ) :=
  (p.guarded attempt).run s.world

/-- The fraction by which a pause is scattered that begins in a world. -/
def fraction (w : World WireEvent (Wire χ)) : Float := w.remote.jitter.next.1

/-- The world after a fraction has been taken. None is taken for a pause that cannot be computed. -/
def drawn (failures : Nat) (w : World WireEvent (Wire χ)) : World WireEvent (Wire χ) :=
  if (p.delay? failures).isNone then w
  else { w with remote := { w.remote with jitter := w.remote.jitter.next.2 } }

/-- An attempt that `failures` others came before failed in a way that may pass, and another one
follows after the pause. -/
structure Repeated (failures : Nat) (x : Failure χ) : Prop where
  few : failures < p.maxRetries
  outcome : (p.tried attempt x.start).1 = .error x.why
  repeats : p.Repeats x.why
  delay : p.scattered? failures (fraction (p.tried attempt x.start).2) = some x.delay

/-- How an attempt that `failures` others came before ends the call: what the call comes to, and the
world in which it is concluded. -/
inductive Ends (failures : Nat) (s : Start χ) :
    Except Fault α → World WireEvent (Wire χ) → Prop
  | last (h : ∀ why, (p.tried attempt s).1 = .error why → ¬ p.Repeats why) :
      Ends failures s (p.tried attempt s).1 (p.tried attempt s).2
  | exhausted {why : Fault} (h : (p.tried attempt s).1 = .error why) (hwhy : p.Repeats why)
      (hfailures : failures = p.maxRetries) :
      Ends failures s (.error why) ((p.tried attempt s).2.note (.gaveUp why (p.maxRetries + 1)))
  /-- The pause before the next attempt cannot be computed. -/
  | overdue {why : Fault} (h : (p.tried attempt s).1 = .error why) (hwhy : p.Repeats why)
      (hfailures : failures < p.maxRetries)
      (hdelay : p.scattered? failures (fraction (p.tried attempt s).2) = none) :
      Ends failures s (.error (.misuse .tooLarge)) (p.drawn failures (p.tried attempt s).2)

/-- The attempts of a call, from one on that `failures` others came before: those that are followed
by another one, and the one that ends the call. -/
inductive Account : (failures : Nat) → Start χ → List (Failure χ) → Start χ →
    Except Fault α → World WireEvent (Wire χ) → Prop
  | ends {failures : Nat} {s : Start χ} {outcome : Except Fault α} {w : World WireEvent (Wire χ)}
      (h : p.Ends attempt failures s outcome w) : Account failures s [] s outcome w
  | again {failures : Nat} {x : Failure χ} {s last : Start χ} {before : List (Failure χ)}
      {outcome : Except Fault α} {w : World WireEvent (Wire χ)} (h : p.Repeated attempt failures x)
      (rest : Account (failures + 1) s before last outcome w) :
      Account failures x.start (x :: before) last outcome w

/-- What is reported of an attempt that is followed by another one, up to the end of the pause. -/
def reportOf (failures : Nat) (x : Failure χ) : List WireEvent :=
  (p.tried attempt x.start).2.journal ++
    [.retrying x.why (failures + 1) (p.maxRetries + 1) x.delay, .slept x.delay]

/-- What is reported of all of them. -/
def reportsOf : (failures : Nat) → List (Failure χ) → List WireEvent
  | _, [] => []
  | failures, x :: before => p.reportOf attempt failures x ++ reportsOf (failures + 1) before

variable {p} {attempt} {failures left : Nat} {s last : Start χ} {x : Failure χ}
  {before : List (Failure χ)} {outcome : Except Fault α} {w : World WireEvent (Wire χ)}
  {conclude : Except Fault α → StateM (World WireEvent (Wire χ)) β} {trace : List WireEvent} {b : β}

/-! ## One attempt -/

theorem turn_eq (left : Nat) (s : Start χ) :
    (p.turn attempt left).run s.world =
      (match (p.tried attempt s).1 with
      | .ok a => (pure (.ended (.ok a)) : StateM (World WireEvent (Wire χ)) (Turn α left))
      | .error why =>
        if isFinal why || p.judge why ≠ Verdict.retryable then pure (.ended (.error why))
        else p.backOff why left).run (p.tried attempt s).2 := rfl

/-- An attempt ends the call unless it failed in a way that may pass. -/
theorem turn_last (h : ∀ why, (p.tried attempt s).1 = .error why → ¬ p.Repeats why) :
    (p.turn attempt left).run s.world = (.ended (p.tried attempt s).1, (p.tried attempt s).2) := by
  rw [turn_eq]
  cases houtcome : (p.tried attempt s).1 with
  | ok a => rfl
  | error why =>
    dsimp only
    rw [if_pos ?_]
    · rfl
    · have hwhy := h why houtcome
      rw [Repeats, not_and] at hwhy
      cases hfinal : isFinal why with
      | true => rfl
      | false => simpa using hwhy hfinal

theorem turn_repeats {why : Fault} (h : (p.tried attempt s).1 = .error why)
    (hwhy : p.Repeats why) :
    (p.turn attempt left).run s.world = (p.backOff why left).run (p.tried attempt s).2 := by
  rw [turn_eq, h]
  dsimp only
  rw [if_neg]
  simp [hwhy.1, hwhy.2]

theorem scattered?_of_delay?_none {fraction : Float} (h : (p.delay? failures).isNone = true) :
    p.scattered? failures fraction = none := by
  rw [scattered?, Option.isNone_iff_eq_none.mp h, Option.bind_none]

/-- A failure that may pass is followed by a pause, as long as repetitions are left. -/
theorem backOff_succ (hleft : failures + (left + 1) = p.maxRetries) (why : Fault)
    (w : World WireEvent (Wire χ)) :
    (p.backOff (α := α) why (left + 1)).run w =
      match p.scattered? failures (fraction w) with
      | none => (.ended (.error (.misuse .tooLarge)), p.drawn failures w)
      | some delay => (.again delay, (p.drawn failures w).noteAll
          [.retrying why (failures + 1) (p.maxRetries + 1) delay, .slept delay]) := by
  obtain rfl : failures = p.maxRetries - (left + 1) := by omega
  rw [backOff, drawn]
  dsimp only
  split
  · next hnone =>
    rw [scattered?_of_delay?_none hnone]
    rfl
  · rw [StateT.run_bind, StateT.run_get, pure_bind, fraction]
    dsimp only
    generalize p.scattered? (p.maxRetries - (left + 1)) w.remote.jitter.next.1 = delay
    cases delay <;> rfl

@[simp] theorem drawn_journal (failures : Nat) (w : World WireEvent (Wire χ)) :
    (p.drawn failures w).journal = w.journal := by
  unfold drawn
  split <;> rfl

theorem turn_of_ends (hleft : failures + left = p.maxRetries)
    (h : p.Ends attempt failures s outcome w) :
    (p.turn attempt left).run s.world = (.ended outcome, w) := by
  cases h with
  | last h => exact turn_last h
  | exhausted h hwhy hfailures =>
    obtain rfl : left = 0 := by omega
    rw [turn_repeats h hwhy]
    rfl
  | overdue h hwhy hfailures hdelay =>
    obtain ⟨left, rfl⟩ := Nat.exists_eq_succ_of_ne_zero (show left ≠ 0 by omega)
    rw [turn_repeats h hwhy, backOff_succ hleft, hdelay]

theorem turn_of_repeated (hleft : failures + (left + 1) = p.maxRetries)
    (h : p.Repeated attempt failures x) :
    ∃ w, (p.turn attempt (left + 1)).run x.start.world = (.again x.delay, w) ∧
      w.journal = p.reportOf attempt failures x := by
  rw [turn_repeats h.outcome h.repeats, backOff_succ hleft, h.delay]
  refine ⟨_, rfl, ?_⟩
  rw [reportOf, World.noteAll, drawn_journal]

/-- An attempt ends the call, or another one follows it. -/
theorem ends_or_repeated (attempt : Run (World WireEvent (Wire χ)) α)
    (hfailures : failures ≤ p.maxRetries) (s : Start χ) :
    (∃ outcome w, p.Ends attempt failures s outcome w) ∨
      ∃ x, x.start = s ∧ p.Repeated attempt failures x := by
  cases houtcome : (p.tried attempt s).1 with
  | ok a => exact .inl ⟨_, _, .last (by simp [houtcome])⟩
  | error why =>
    by_cases hwhy : p.Repeats why
    · obtain rfl | hfew := Nat.eq_or_lt_of_le hfailures
      · exact .inl ⟨_, _, .exhausted houtcome hwhy rfl⟩
      · cases hdelay : p.scattered? failures (fraction (p.tried attempt s).2) with
        | none => exact .inl ⟨_, _, .overdue houtcome hwhy hfew hdelay⟩
        | some delay => exact .inr ⟨⟨s, why, delay⟩, rfl, hfew, houtcome, hwhy, hdelay⟩
    · refine .inl ⟨_, _, .last fun f hf => ?_⟩
      obtain rfl := Except.error.inj (houtcome.symm.trans hf)
      exact hwhy

/-! ## All attempts -/

theorem attempts_ended (h : (p.turn attempt left).run s.world = (.ended outcome, w)) :
    p.attempts attempt conclude left s.now s.wire = concluded conclude outcome w := by
  rw [Start.world] at h
  cases left <;> rw [attempts, h]

theorem attempts_again {delay : Float}
    (h : (p.turn attempt (left + 1)).run s.world = (.again delay, w)) :
    p.attempts attempt conclude (left + 1) s.now s.wire =
      .paused ⟨w.remote, w.journal, false⟩ delay (p.attempts attempt conclude left) := by
  rw [Start.world] at h
  rw [attempts, h]
  rfl

/-- The last leg reports what it has done already, and how the call is concluded. -/
theorem concluded_rests_iff {pauses : Nat} {delays : List Float} :
    (concluded conclude outcome w : Leg WireEvent (Wire χ) β pauses).Rests delays trace b ↔
      delays = [] ∧ trace = ((conclude outcome).run w).2.journal ∧
        b = ((conclude outcome).run w).1 := by
  rw [concluded]
  constructor
  · rintro ⟨⟩
    exact ⟨rfl, rfl, rfl⟩
  · rintro ⟨rfl, rfl, rfl⟩
    exact .done _ _

theorem Account.rests (h : p.Account attempt failures s before last outcome w)
    (hleft : failures + left = p.maxRetries) :
    (p.attempts attempt conclude left s.now s.wire).Rests (before.map Failure.delay)
      (p.reportsOf attempt failures before ++ ((conclude outcome).run w).2.journal)
      ((conclude outcome).run w).1 := by
  induction h generalizing left with
  | @ends failures s outcome w h =>
    rw [attempts_ended (turn_of_ends hleft h)]
    exact concluded_rests_iff.mpr ⟨rfl, rfl, rfl⟩
  | @again failures x s last before outcome w h rest ih =>
    obtain ⟨left, rfl⟩ := Nat.exists_eq_succ_of_ne_zero (show left ≠ 0 by have := h.few; omega)
    obtain ⟨w', hturn, hjournal⟩ := turn_of_repeated hleft h
    rw [attempts_again hturn, reportsOf, ← hjournal, List.append_assoc]
    exact .paused s.now s.wire (ih (by omega))

/-- The account that a run tells of a call, by its pauses, the reports and the answer. -/
def Told (p : RetryPolicy) (attempt : Run (World WireEvent (Wire χ)) α)
    (conclude : Except Fault α → StateM (World WireEvent (Wire χ)) β) (failures : Nat) (s : Start χ)
    (delays : List Float) (trace : List WireEvent) (b : β) : Prop :=
  ∃ before last outcome w, p.Account attempt failures s before last outcome w ∧
    delays = before.map Failure.delay ∧
    trace = p.reportsOf attempt failures before ++ ((conclude outcome).run w).2.journal ∧
    b = ((conclude outcome).run w).1

theorem Ends.told {delays : List Float} (h : p.Ends attempt failures s outcome w)
    (hleft : failures + left = p.maxRetries)
    (hrests : (p.attempts attempt conclude left s.now s.wire).Rests delays trace b) :
    p.Told attempt conclude failures s delays trace b := by
  rw [attempts_ended (turn_of_ends hleft h)] at hrests
  obtain ⟨rfl, rfl, rfl⟩ := concluded_rests_iff.mp hrests
  exact ⟨[], s, outcome, w, .ends h, rfl, rfl, rfl⟩

theorem told_of_rests {delays : List Float} (hleft : failures + left = p.maxRetries)
    (h : (p.attempts attempt conclude left s.now s.wire).Rests delays trace b) :
    p.Told attempt conclude failures s delays trace b := by
  induction left generalizing failures s delays trace with
  | zero =>
    obtain ⟨outcome, w, hends⟩ | ⟨x, rfl, hrepeated⟩ :=
      ends_or_repeated attempt (Nat.le_of_eq hleft) s
    · exact hends.told hleft h
    · exact absurd hrepeated.few (Nat.not_lt.mpr (Nat.le_of_eq hleft.symm))
  | succ left ih =>
    obtain ⟨outcome, w, hends⟩ | ⟨x, rfl, hrepeated⟩ :=
      ends_or_repeated attempt (show failures ≤ p.maxRetries by omega) s
    · exact hends.told hleft h
    · obtain ⟨w, hturn, hjournal⟩ := turn_of_repeated hleft hrepeated
      rw [attempts_again hturn] at h
      cases h with
      | @paused _ _ _ _ delays trace _ now wire rest =>
        obtain ⟨before, last, outcome, w', haccount, rfl, rfl, rfl⟩ :=
          ih (s := ⟨now, wire⟩) (show failures + 1 + left = p.maxRetries by omega) rest
        refine ⟨x :: before, last, outcome, w', .again hrepeated haccount, rfl, ?_, rfl⟩
        rw [reportsOf, ← hjournal, List.append_assoc]

/-- What a call finds at first: a shared breaker is made if there is none. -/
def prepared (p : RetryPolicy) (wire : Wire χ) : Wire χ :=
  match p.circuit with
  | .shared name => wire.ensure name (some Fault.classify)
  | _ => wire

/-- **A call has a run exactly if that tells an account of it.** What its attempts find after the
pauses may be any. -/
theorem run_rests_iff {now : Float} {wire : Wire χ} {delays : List Float} :
    (p.run attempt conclude now wire).Rests delays trace b ↔
      p.Told attempt conclude 0 ⟨now, p.prepared wire⟩ delays trace b := by
  refine ⟨told_of_rests (s := ⟨now, p.prepared wire⟩) (Nat.zero_add _), ?_⟩
  rintro ⟨before, last, outcome, w, haccount, rfl, rfl, rfl⟩
  exact haccount.rests (Nat.zero_add _)

end RetryPolicy

end BlockStorage
