import BlockStorage.Proofs.Retry.Meaning

/-!
# Where the pauses of a retried call end

The pause after `k` failures is a double multiplied by `2 ^ k`, and that is done before the
pause is cut down to its ceiling. So the 1025th failure cannot be followed by a pause, and a
call that is to be repeated more often ends there with a fault of its own.

* `RetryPolicy.Steadfast`: a policy whose calls always come to what their last attempt came to.
* `RetryPolicy.Overrun.length_eq`: a call that ends before that has made 1025 attempts.
* `RetryPolicy.steadfast_iff`: the steadfast policies.
-/

namespace BlockStorage

namespace RetryPolicy

variable {χ α : Type} {p : RetryPolicy} {attempt : Run (World WireEvent (Wire χ)) α}
  {failures : Nat} {s first last : Start χ} {before : List (Failure χ)} {delays : List Float}
  {trace : List WireEvent} {answer : Except Fault α} {x : Float}

/-- A policy that adds no faults of its own: each of its calls makes attempts as long as they fail
in a way that may pass and more are allowed, and comes to what the last of them came to. -/
def Steadfast (p : RetryPolicy) : Prop :=
  ∀ (χ α : Type) (attempt : Run (World WireEvent (Wire χ)) α) (now : Float) (wire : Wire χ)
    (delays : List Float) (trace : List WireEvent) (answer : Except Fault α),
    (p.run attempt pure now wire).Rests delays trace answer →
      ∃ before last, p.Meaning attempt ⟨now, p.prepared wire⟩ before last delays trace answer

/-! ## The last pause -/

theorem Repeated.failures_le {failure : Failure χ} (hbase : p.baseDelay = .real x)
    (hmax : p.maxDelay.real?.isSome = true) (h : p.Repeated attempt failures failure) :
    failures ≤ 1023 :=
  (isSome_scattered?_iff hbase hmax _).mp (Option.isSome_of_eq_some h.delay)

/-- What may be repeated 1024 times at most. -/
theorem length_le_of_repeated (hbase : p.baseDelay = .real x)
    (hmax : p.maxDelay.real?.isSome = true)
    (h : ∀ (k : Nat) (h : k < before.length), p.Repeated attempt k before[k]) :
    before.length ≤ 1024 := by
  cases hlength : before.length with
  | zero => exact Nat.zero_le _
  | succ k => exact Nat.succ_le_succ ((h k (by omega)).failures_le hbase hmax)

/-- **A call that ends where a pause cannot be computed has made 1025 attempts**, and more are
allowed. -/
theorem Overrun.length_eq (hbase : p.baseDelay = .real x) (hmax : p.maxDelay.real?.isSome = true)
    (h : p.Overrun attempt first before last delays trace answer) :
    before.length = 1024 ∧ 1024 < p.maxRetries := by
  have hle := length_le_of_repeated hbase hmax h.repeated
  have hmore : ¬ before.length ≤ 1023 := by
    rw [← isSome_scattered?_iff hbase hmax, h.late]
    exact Bool.false_ne_true
  have hfew := h.few
  omega

/-- Where each attempt finds the same and fails, the call gets to the pause that cannot be
computed. -/
theorem account_failing (hbase : p.baseDelay = .real x) (hmax : p.maxDelay.real?.isSome = true)
    (hretries : 1024 < p.maxRetries) {why : Fault} (htried : (p.tried attempt s).1 = .error why)
    (hwhy : p.Repeats why) (hfailures : failures ≤ 1024) :
    ∃ before w, p.Account attempt failures s before s (.error (.misuse .tooLarge)) w ∧
      failures + before.length = 1024 := by
  obtain ⟨left, hleft⟩ := Nat.exists_eq_add_of_le hfailures
  induction left generalizing failures with
  | zero =>
    have hnone : p.scattered? failures (fraction (p.tried attempt s).2) = none := by
      rw [← Option.not_isSome_iff_eq_none, isSome_scattered?_iff hbase hmax]
      omega
    exact ⟨[], _, .ends (.overdue htried hwhy (by omega) hnone), hleft.symm⟩
  | succ left ih =>
    obtain ⟨delay, hdelay⟩ := Option.isSome_iff_exists.mp ((isSome_scattered?_iff hbase hmax
      (fraction (p.tried attempt s).2)).mpr (show failures ≤ 1023 by omega))
    obtain ⟨before, w, haccount, hlength⟩ := ih (show failures + 1 ≤ 1024 by omega) (by omega)
    have hrepeated : p.Repeated attempt failures ⟨s, why, delay⟩ :=
      ⟨by omega, htried, hwhy, hdelay⟩
    refine ⟨_ :: before, w, .again hrepeated haccount, ?_⟩
    rw [List.length_cons]
    omega

/-! ## A call that keeps failing -/

/-- A wire whose breakers are all new, among them the one of the policy. -/
def freshWire (p : RetryPolicy) : Wire Unit where
  client := ()
  shared := match p.circuit with
    | .shared name => [(name, { name })]
    | _ => []

theorem prepared_freshWire (p : RetryPolicy) : p.prepared p.freshWire = p.freshWire := by
  unfold prepared
  split
  · next name h =>
    rw [Wire.ensure, if_pos]
    simp [freshWire, h]
  · rfl

theorem closed_freshWire {b : Breaker} (h : p.freshWire.breaker? p.circuit = some b) :
    b.state = .closed := by
  cases hcircuit : p.circuit with
  | none =>
    rw [hcircuit] at h
    cases h
  | own =>
    rw [hcircuit] at h
    obtain rfl := Option.some.inj h
    rfl
  | shared name =>
    simp only [freshWire, hcircuit, Wire.breaker?, List.lookup_cons_self, Option.some.injEq] at h
    rw [← h]

/-- An attempt that fails at once. -/
def failing (why : Fault) : Run (World WireEvent (Wire Unit)) Unit := throw why

/-- What such an attempt comes to, unless the breaker rejects it. -/
theorem tried_failing (p : RetryPolicy) (why : Fault) (s : Start Unit) :
    (p.tried (failing why) s).1 = .error why ∨
      ∃ b retryAfter, s.wire.breaker? p.circuit = some b ∧ b.state = .opened ∧
        (p.tried (failing why) s).1 = .error (.circuitOpen b.name (.real retryAfter)) := by
  have hcalls := p.tried_calls (failing why) s
  generalize p.tried (failing why) s = result at hcalls ⊢
  cases hcalls with
  | bare => exact .inl rfl
  | admitted => exact .inl (conclude_fst (α := Unit) _ _)
  | @rejected b retryAfter h hrejected =>
    refine .inr ⟨b, retryAfter, h, by_contra fun hstate => ?_, rfl⟩
    rw [Breaker.arrive, if_neg hstate] at hrejected
    cases hrejected

theorem rests_failing (hbase : p.baseDelay = .real x) (hmax : p.maxDelay.real?.isSome = true)
    (hretries : 1024 < p.maxRetries) {why : Fault} (hwhy : p.Repeats why) :
    ∃ delays trace, (p.run (failing why) pure 0.0 p.freshWire).Rests delays trace
      (.error (.misuse .tooLarge)) ∧ delays.length = 1024 := by
  have htried : (p.tried (failing why) ⟨0.0, p.freshWire⟩).1 = .error why := by
    obtain h | ⟨b, -, hb, hopened, -⟩ := p.tried_failing why ⟨0.0, p.freshWire⟩
    · exact h
    · rw [closed_freshWire hb] at hopened
      cases hopened
  obtain ⟨before, w, haccount, hlength⟩ :=
    account_failing hbase hmax hretries htried hwhy (Nat.zero_le 1024)
  rw [← prepared_freshWire] at haccount
  refine ⟨_, _, run_rests_iff.mpr ⟨before, _, _, w, haccount, rfl, rfl, rfl⟩, ?_⟩
  rwa [List.length_map, ← Nat.zero_add before.length]

/-! ## Steadfast policies -/

/-- No attempt of such a call came to the fault that ends it. -/
theorem not_meaning_failing (hbase : p.baseDelay = .real x) (hmax : p.maxDelay.real?.isSome = true)
    (hretries : 1024 < p.maxRetries) {why : Fault} (hwhy : p.Repeats why) {first : Start Unit}
    {before : List (Failure Unit)} {last : Start Unit} :
    ¬ p.Meaning (failing why) first before last delays trace (.error (.misuse .tooLarge)) := by
  intro h
  have hlength := length_le_of_repeated hbase hmax h.repeated
  have hfinal := h.ends.resolve_left (by omega)
  have hanswer := h.answers
  obtain htried | ⟨b, retryAfter, -, -, htried⟩ := p.tried_failing why last
  · obtain rfl := Except.error.inj (hanswer.trans htried)
    exact hfinal _ rfl hwhy
  · cases Except.error.inj (hanswer.trans htried)

theorem not_steadfast (hbase : p.baseDelay = .real x) (hmax : p.maxDelay.real?.isSome = true)
    (hretries : 1024 < p.maxRetries) {why : Fault} (hwhy : p.Repeats why) : ¬ p.Steadfast := by
  intro h
  obtain ⟨delays, trace, hrests, -⟩ := rests_failing hbase hmax hretries hwhy
  obtain ⟨before, last, hmeaning⟩ := h _ _ _ _ _ _ _ _ hrests
  exact not_meaning_failing hbase hmax hretries hwhy hmeaning

/-- **The steadfast policies** are those that allow up to 1024 repetitions, and those that never
repeat a call. -/
theorem steadfast_iff (p : RetryPolicy) (hbase : p.baseDelay = .real x)
    (hmax : p.maxDelay.real?.isSome = true) :
    p.Steadfast ↔ p.maxRetries ≤ 1024 ∨ ∀ why, ¬ p.Repeats why := by
  constructor
  · intro h
    by_contra hnot
    obtain ⟨hretries, hrepeats⟩ := not_or.mp hnot
    obtain ⟨why, hwhy⟩ := not_forall.mp hrepeats
    exact not_steadfast hbase hmax (Nat.not_le.mp hretries) (not_not.mp hwhy) h
  · intro h χ α attempt now wire delays trace answer hrests
    obtain ⟨before, last, hmeaning | hoverrun⟩ := (run_iff ..).mp hrests
    · exact ⟨before, last, hmeaning⟩
    · obtain ⟨why, -, hwhy⟩ := hoverrun.fails
      have hretries := (hoverrun.length_eq hbase hmax).2
      exact absurd hwhy (h.resolve_left (by omega) why)

/-- The policy that a call has by default is one of them. -/
theorem default_steadfast : ({} : RetryPolicy).Steadfast :=
  (steadfast_iff {} rfl rfl).mpr (.inl (by decide))

/-- A policy that allows one repetition too many. Its pauses take no time. -/
def persistent : RetryPolicy where
  maxRetries := 1025
  baseDelay := .real 0.0
  maxDelay := .real 0.0

/-- Each attempt of a call may time out, and the call come to another fault after 1024 pauses. -/
theorem persistent_not_steadfast :
    (∀ s, (persistent.tried (failing (.timedOut "")) s).1 = .error (.timedOut "")) ∧
      (∃ delays trace, (persistent.run (failing (.timedOut "")) pure 0.0 { client := () }).Rests
        delays trace (.error (.misuse .tooLarge)) ∧ delays.length = 1024) ∧
      ¬ persistent.Steadfast := by
  have hwhy : persistent.Repeats (.timedOut "") := by decide
  exact ⟨fun s => rfl, rests_failing (p := persistent) rfl rfl (by decide) hwhy,
    not_steadfast (p := persistent) rfl rfl (by decide) hwhy⟩

end RetryPolicy

end BlockStorage
