import BlockStorage.Proofs.Conduct
import BlockStorage.Proofs.Retry.Account

/-!
# The course of a retried call

An attempt is made behind the breaker, or rejected by it. Another attempt follows only
after a failure that the policy's judge lets pass, as long as repetitions are left and
the pause before it can be computed. The course of a call says what its attempts did
and what the last of them came to, without the clock and without reports about the
retrying itself.

* `RetryPolicy.Guarded`: an attempt behind the breaker.
* `RetryPolicy.Course`: a constructor for each way in which an attempt may be followed.
* `RetryPolicy.course_of_runs`: every run of a call takes one of its courses.
* `RetryPolicy.Course.sends`: where an attempt sends at most one request, what holds
  of the failures that are let pass holds of every request but the last.
-/

namespace BlockStorage

namespace WireEvent

/-- Whether an event is a request that went out to the provider. -/
def isSent : WireEvent → Bool
  | sent _ _ _ _ => true
  | _ => false

/-- Whether an event is only about how the call is carried out: it says neither what became of an
attempt nor what that meant. -/
def isAside : WireEvent → Bool
  | circuit (.rejected _ _) | sent _ _ _ _ | failed _ _ _ => false
  | _ => true

/-- Whether an event is one of those that retrying adds to what the attempts report. -/
def isRetrying : WireEvent → Bool
  | circuit (.rejected _ _) => false
  | circuit _ | retrying _ _ _ _ | gaveUp _ _ | slept _ => true
  | _ => false

theorem isSent_of_isAside {e : WireEvent} (h : e.isAside = true) : e.isSent = false := by
  cases e <;> first | rfl | cases h

theorem isAside_of_isRetrying {e : WireEvent} (h : e.isRetrying = true) : e.isAside = true := by
  cases e with
  | circuit e => cases e <;> first | rfl | cases h
  | _ => first | rfl | cases h

end WireEvent

open WireEvent (isSent isRetrying)

/-! ## The breaker -/

namespace Breaker

/-- A call that arrives is let through, or rejected with a report of it. -/
theorem arrive_cases (b : Breaker) (now : Float) :
    (∃ b' es, b.arrive now = (.passed, b', es) ∧ ∀ e ∈ es, isRetrying (.circuit e) = true) ∨
      ∃ retryAfter, b.arrive now = (.rejected retryAfter, b, [.rejected b.name retryAfter]) := by
  rw [arrive]
  split
  · split
    · exact .inr ⟨_, rfl⟩
    · exact .inl ⟨_, _, rfl, by simp [isRetrying]⟩
  · exact .inl ⟨_, _, rfl, by simp⟩

theorem succeed_retrying (b : Breaker) : ∀ e ∈ b.succeed.2, isRetrying (.circuit e) = true := by
  rw [succeed]
  dsimp only
  split
  · split
    · simp [goTo, isRetrying]
    · simp
  · simp

theorem fail_retrying (b : Breaker) (now : Float) :
    ∀ e ∈ (b.fail now).2, isRetrying (.circuit e) = true := by
  rw [fail]
  dsimp only
  split
  · simp [goTo, isRetrying]
  · simp

theorem settle_retrying (b : Breaker) (now : Float) (fault : Option Fault) :
    ∀ e ∈ (b.settle now fault).2, isRetrying (.circuit e) = true := by
  cases fault with
  | none => exact List.forall_mem_cons.mpr ⟨rfl, b.succeed_retrying⟩
  | some f =>
    rw [settle]
    split
    · simp
    · split
      · simp [isRetrying]
      · exact List.forall_mem_cons.mpr ⟨rfl, b.fail_retrying now⟩

end Breaker

namespace RetryPolicy

variable {χ α β σ : Type} {p : RetryPolicy} {attempt : Run (World WireEvent (Wire χ)) α}
  {conclude : Except Fault α → StateM (World WireEvent (Wire χ)) β}

/-! ## Courses -/

/-- What an attempt does behind a breaker: what it does alone, or it is rejected without being
made. -/
inductive Guarded (keep : WireEvent → Bool) (Makes : List WireEvent → Except Fault α → Prop) :
    List WireEvent → Except Fault α → Prop
  | made {es : List WireEvent} {r : Except Fault α} (h : Makes es r) : Guarded keep Makes es r
  | rejected (name : String) (retryAfter : Float) :
      Guarded keep Makes ([.circuit (.rejected name retryAfter)].filter keep)
        (.error (.circuitOpen name (.real retryAfter)))

/-- A rejection is never followed by another attempt. -/
theorem Guarded.of_repeats {keep : WireEvent → Bool}
    {Makes : List WireEvent → Except Fault α → Prop} {es : List WireEvent} {why : Fault}
    (h : Guarded keep Makes es (.error why)) (hwhy : p.Repeats why) : Makes es (.error why) := by
  cases h with
  | made h => exact h
  | rejected name retryAfter => exact absurd hwhy (p.not_repeats_circuitOpen name _)

/-- How a call goes on with `left` repetitions to go. `Attempts` says what an attempt may do and
come to. -/
inductive Course (p : RetryPolicy) (Attempts : List σ → Except Fault α → Prop) :
    (left : Nat) → List σ → Except Fault α → Prop
  | last {left : Nat} {es : List σ} {outcome : Except Fault α} (h : Attempts es outcome)
      (hlast : ∀ f, outcome = .error f → ¬ p.Repeats f) : Course p Attempts left es outcome
  | exhausted {es : List σ} {why : Fault} (h : Attempts es (.error why)) (hwhy : p.Repeats why) :
      Course p Attempts 0 es (.error why)
  /-- The pause before the next attempt cannot be computed. -/
  | overdue {left : Nat} {es : List σ} {why : Fault} {fraction : Float}
      (h : Attempts es (.error why)) (hwhy : p.Repeats why)
      (hdelay : p.scattered? (p.maxRetries - (left + 1)) fraction = none) :
      Course p Attempts (left + 1) es (.error (.misuse .tooLarge))
  | again {left : Nat} {es fs : List σ} {why : Fault} {outcome : Except Fault α}
      (h : Attempts es (.error why)) (hwhy : p.Repeats why)
      (rest : Course p Attempts left fs outcome) : Course p Attempts (left + 1) (es ++ fs) outcome

/-! ## One attempt -/

section Does

variable {keep : WireEvent → Bool} {Makes : List WireEvent → Except Fault α → Prop}

theorem filter_eq_nil {P : WireEvent → Bool} (hkeep : ∀ e, P e = true → keep e = false)
    {es : List WireEvent} (hes : ∀ e ∈ es, P e = true) : es.filter keep = [] :=
  List.filter_eq_nil_iff.mpr fun e he => by rw [hkeep e (hes e he)]; exact Bool.false_ne_true

theorem does_writeBreaker {Q : List WireEvent → Unit → Prop} (p : RetryPolicy) (b : Breaker)
    (h : Q [] ()) : Does keep (p.writeBreaker (χ := χ) b) Q :=
  .silent (fun _ => rfl) (fun _ => rfl) fun _ => h

theorem does_reportCircuit {Q : List WireEvent → Unit → Prop}
    (hkeep : ∀ e, isRetrying e = true → keep e = false) {es : List CircuitEvent}
    (hes : ∀ e ∈ es, isRetrying (.circuit e) = true) (h : Q [] ()) :
    Does keep (reportCircuit (χ := χ) es) Q := by
  refine .noteAll _ ?_
  rw [filter_eq_nil hkeep (List.forall_mem_map.mpr hes)]
  exact h

/-- Behind a breaker an attempt does what it does alone, or is rejected without being made. -/
theorem does_guarded (hkeep : ∀ e, isRetrying e = true → keep e = false)
    (h : Does keep attempt.run Makes) : Does keep (p.guarded attempt) (Guarded keep Makes) := by
  refine .bind (.get fun w => ?_)
  split
  · exact h.mono fun _ _ => .made
  · next b hb =>
    obtain ⟨b', events, harrive, hevents⟩ | ⟨retryAfter, harrive⟩ := b.arrive_cases w.now
    · rw [harrive]
      refine .bind (does_writeBreaker p _ ?_)
      refine .bind (does_reportCircuit hkeep hevents ?_)
      refine .bind (h.mono fun es r hr => ?_)
      refine .bind (.get fun w => ?_)
      have hmade : Guarded keep Makes ([] ++ ([] ++ ([] ++ (es ++ ([] ++ []))))) r := by
        rw [List.append_nil, List.append_nil]
        exact .made hr
      dsimp only
      split
      · refine .bind (does_writeBreaker p _ ?_)
        refine .bind (does_reportCircuit hkeep (Breaker.settle_retrying _ _ _) ?_)
        exact .pure _ hmade
      · exact .pure _ hmade
    · rw [harrive]
      refine .bind (does_writeBreaker p _ ?_)
      refine .bind (.noteAll _ ?_)
      refine .pure _ ?_
      rw [List.append_nil]
      exact .rejected b.name retryAfter

variable {failures left : Nat} {s last : Start χ} {before : List (Failure χ)}
  {outcome : Except Fault α} {w : World WireEvent (Wire χ)}

/-- A call that ends reports nothing more of its attempt than that it gives up. -/
theorem Ends.grows (h : p.Ends attempt failures s outcome w) :
    ∃ es, (p.tried attempt s).2.Grows es w ∧ ∀ e ∈ es, isRetrying e = true := by
  cases h with
  | last => exact ⟨[], .refl _, by simp⟩
  | exhausted => exact ⟨_, World.grows_note _ _, by simp [isRetrying]⟩
  | overdue =>
    refine ⟨[], .of_eq (drawn_journal ..) ?_, by simp⟩
    unfold drawn
    split <;> rfl

theorem Ends.course {Attempts : List σ → Except Fault α → Prop} {es : List σ}
    (h : p.Ends attempt failures s outcome w) (hleft : failures + left = p.maxRetries)
    (hes : Attempts es (p.tried attempt s).1) : p.Course Attempts left es outcome := by
  cases h with
  | last hlast => exact .last hes hlast
  | exhausted houtcome hwhy hfailures =>
    obtain rfl : left = 0 := by omega
    exact .exhausted (houtcome ▸ hes) hwhy
  | overdue houtcome hwhy hfailures hdelay =>
    obtain ⟨left, rfl⟩ := Nat.exists_eq_succ_of_ne_zero (show left ≠ 0 by omega)
    obtain rfl : failures = p.maxRetries - (left + 1) := by omega
    exact .overdue (houtcome ▸ hes) hwhy hdelay

/-! ## All attempts -/

/-- What an account keeps of its reports is a course, and how the call is concluded. -/
theorem Account.course (hkeep : ∀ e, isRetrying e = true → keep e = false)
    {Concludes : List WireEvent → β → Prop} (h : Does keep attempt.run Makes)
    (hconclude : Does keep (conclude outcome) Concludes)
    (haccount : p.Account attempt failures s before last outcome w)
    (hleft : failures + left = p.maxRetries) :
    ∃ es fs, (p.reportsOf attempt failures before ++
        ((conclude outcome).run w).2.journal).filter keep = es ++ fs ∧
      p.Course (Guarded keep Makes) left es outcome ∧
      Concludes fs ((conclude outcome).run w).1 := by
  induction haccount generalizing left with
  | @ends failures s outcome w hends =>
    obtain ⟨own, hgrows, hguarded⟩ := does_guarded (p := p) hkeep h s.world
    obtain ⟨aside, hgrows', haside⟩ := hends.grows
    obtain ⟨own', hgrows'', hconcludes⟩ := hconclude w
    refine ⟨own.filter keep, own'.filter keep, ?_, hends.course hleft hguarded, hconcludes⟩
    have hjournal := ((hgrows.trans hgrows').trans hgrows'').wrote.journal_eq rfl
    change ((conclude outcome w).2.journal).filter keep = _
    rw [hjournal]
    simp [Start.world, filter_eq_nil hkeep haside]
  | @again failures x s last before outcome w hrepeated rest ih =>
    obtain ⟨left, rfl⟩ :=
      Nat.exists_eq_succ_of_ne_zero (show left ≠ 0 by have := hrepeated.few; omega)
    obtain ⟨own, hgrows, hguarded⟩ := does_guarded (p := p) hkeep h x.start.world
    obtain ⟨es, fs, heq, hcourse, hconcludes⟩ :=
      ih hconclude (show failures + 1 + left = p.maxRetries by omega)
    refine ⟨own.filter keep ++ es, fs, ?_, ?_, hconcludes⟩
    · have hjournal : (p.tried attempt x.start).2.journal = own := hgrows.wrote.journal_eq rfl
      have hpause : ∀ e ∈ [.retrying x.why (failures + 1) (p.maxRetries + 1) x.delay,
          .slept x.delay], isRetrying e = true := by simp [isRetrying]
      rw [reportsOf, reportOf, hjournal, List.append_assoc, List.append_assoc, List.filter_append,
        List.filter_append, filter_eq_nil hkeep hpause, List.nil_append, heq, List.append_assoc]
    · have hfailed : (p.guarded attempt x.start.world).1 = .error x.why := hrepeated.outcome
      exact .again (hfailed ▸ hguarded) hrepeated.repeats hcourse

/-- **Every run of a retried call takes one of its courses**, and is concluded with what the course
has come to. The clock and the wire that it finds after a pause may be any. -/
theorem course_of_runs (hkeep : ∀ e, isRetrying e = true → keep e = false)
    {Concludes : Except Fault α → List WireEvent → β → Prop} (h : Does keep attempt.run Makes)
    (hconclude : ∀ outcome, Does keep (conclude outcome) (Concludes outcome))
    {now : Float} {wire : Wire χ} {trace : List WireEvent} {b : β}
    (hruns : (p.run attempt conclude now wire).Runs trace b) :
    ∃ es fs outcome, trace.filter keep = es ++ fs ∧
      p.Course (Guarded keep Makes) p.maxRetries es outcome ∧ Concludes outcome fs b := by
  obtain ⟨delays, hrests⟩ := Leg.runs_iff_rests.mp hruns
  obtain ⟨before, last, outcome, w, haccount, -, rfl, rfl⟩ := run_rests_iff.mp hrests
  obtain ⟨es, fs, heq, hcourse, hconcludes⟩ :=
    haccount.course hkeep h (hconclude outcome) (Nat.zero_add _)
  exact ⟨es, fs, outcome, heq, hcourse, hconcludes⟩

end Does

/-! ## What courses do -/

theorem not_mem_dropLast {es : List WireEvent} {e : WireEvent} (h : es.length ≤ 1) :
    e ∉ es.dropLast := by
  rw [List.eq_nil_of_length_eq_zero (l := es.dropLast) (by rw [List.length_dropLast]; omega)]
  exact List.not_mem_nil

theorem mem_dropLast_append {es fs : List WireEvent} {e : WireEvent}
    (h : e ∈ (es ++ fs).dropLast) : e ∈ es ∨ e ∈ fs.dropLast := by
  cases fs with
  | nil =>
    rw [List.append_nil] at h
    exact Or.inl ((List.dropLast_sublist es).subset h)
  | cons f fs =>
    rw [List.dropLast_append_of_ne_nil (List.cons_ne_nil f fs)] at h
    exact List.mem_append.mp h

/-- **Where an attempt does one thing at most, a course does at most one more than there are
repetitions left**, and all of them but the last passed. -/
theorem Course.sends {passed : WireEvent → Prop}
    {Attempts : List WireEvent → Except Fault α → Prop}
    (hattempts : ∀ es r, Attempts es r → es.length ≤ 1 ∧
      ∀ f, r = .error f → p.judge f = .retryable → ∀ e ∈ es, passed e)
    {left : Nat} {es : List WireEvent} {outcome : Except Fault α}
    (h : p.Course Attempts left es outcome) :
    es.length ≤ left + 1 ∧ ∀ e ∈ es.dropLast, passed e := by
  have hone : ∀ {left : Nat} {es : List WireEvent} {r : Except Fault α}, Attempts es r →
      es.length ≤ left + 1 ∧ ∀ e ∈ es.dropLast, passed e := by
    intro left es r hr
    have hlength := (hattempts _ _ hr).1
    exact ⟨by omega, fun e he => absurd he (not_mem_dropLast hlength)⟩
  induction h with
  | last h _ => exact hone h
  | exhausted h _ => exact hone h
  | overdue h _ _ => exact hone h
  | again h hwhy _ ih =>
    obtain ⟨hlength, hpassed⟩ := hattempts _ _ h
    refine ⟨?_, fun e he => ?_⟩
    · rw [List.length_append]
      omega
    · rcases mem_dropLast_append he with he | he
      · exact hpassed _ rfl hwhy.2 e he
      · exact ih.2 e he

end RetryPolicy

end BlockStorage
