import BlockStorage.Proofs.Conduct
import BlockStorage.Wait

/-!
# The course of a wait

A wait looks, pauses, fetches and looks again. Its course says what its fetches did
and how it ended, without the clock and without its reports.

* `Wait.Course`: a constructor for each way in which a look may go on.
* `Wait.does_run`: a wait takes one of its courses and answers what the course
  ended with.
* `Wait.Settles.length_le`: no more is fetched than the budget allows.
-/

namespace BlockStorage

/-- Whether an event tells of the looking, and not of how it ended. -/
def WaitEvent.isLooking : WaitEvent → Bool
  | .started _ _ _ | .slept _ | .refreshing _ => true
  | _ => false

namespace Wait

variable {τ σ σ' ε γ : Type} [Viewed τ]

/-- Neither failed nor ready: only another look can tell. -/
def Undecided (w : Wait τ) (last : τ) : Prop := w.failed last = false ∧ w.ready last = false

/-- How a wait goes on with `left` fetches to go and `used` done: what its fetches did, how it
ended, and how many fetches there were in the end. `Fetches` says what a fetch from a state may do
and find. -/
inductive Course (w : Wait τ) (Fetches : τ → List σ → Except Fault τ → Prop) :
    (left used : Nat) → τ → List σ → Ending τ → Nat → Prop
  | failed {left used : Nat} {last : τ} (h : w.failed last = true) :
      Course w Fetches left used last [] (.failedState last) used
  | ready {left used : Nat} {last : τ} (hf : w.failed last = false) (h : w.ready last = true) :
      Course w Fetches left used last [] (.ready last) used
  | exhausted {used : Nat} {last : τ} (h : w.Undecided last) :
      Course w Fetches 0 used last [] (.exhausted last) used
  | cancelled {left used : Nat} {last : τ} (h : w.Undecided last) :
      Course w Fetches (left + 1) used last []
        (.stopped (.pollCancelled w.condition (Viewed.view last))) used
  | fetched {left used total : Nat} {last state : τ} {es fs : List σ} {ending : Ending τ}
      (h : w.Undecided last) (hfetch : Fetches last es (.ok state))
      (rest : Course w Fetches left (used + 1) state fs ending total) :
      Course w Fetches (left + 1) used last (es ++ fs) ending total
  | gone {left used : Nat} {last : τ} {es : List σ} {why : Fault} (h : w.Undecided last)
      (hfetch : Fetches last es (.error why)) (hgone : why.isNotFound ∧ w.goneIsReady) :
      Course w Fetches (left + 1) used last es .gone (used + 1)
  | broken {left used : Nat} {last : τ} {es : List σ} {why : Fault} (h : w.Undecided last)
      (hfetch : Fetches last es (.error why)) (hgone : ¬ (why.isNotFound ∧ w.goneIsReady)) :
      Course w Fetches (left + 1) used last es (.stopped why) (used + 1)

namespace Course

variable {w : Wait τ} {Fetches : τ → List σ → Except Fault τ → Prop} {left used total : Nat}
  {first : τ} {es : List σ} {ending : Ending τ}

theorem mono {Fetches' : τ → List σ → Except Fault τ → Prop}
    (h : w.Course Fetches left used first es ending total)
    (hm : ∀ t es r, Fetches t es r → Fetches' t es r) :
    w.Course Fetches' left used first es ending total := by
  induction h with
  | failed h => exact .failed h
  | ready hf h => exact .ready hf h
  | exhausted h => exact .exhausted h
  | cancelled h => exact .cancelled h
  | fetched h hfetch _ ih => exact .fetched h (hm _ _ _ hfetch) ih
  | gone h hfetch hgone => exact .gone h (hm _ _ _ hfetch) hgone
  | broken h hfetch hgone => exact .broken h (hm _ _ _ hfetch) hgone

/-- Where every fetch does what certain items stand for, so does the whole course. -/
theorem of_flatMap {f : σ' → List σ} {Told : τ → List σ' → Except Fault τ → Prop}
    (h : w.Course (fun t es r => ∃ xs, es = xs.flatMap f ∧ Told t xs r) left used first es ending
      total) :
    ∃ xs, es = xs.flatMap f ∧ w.Course Told left used first xs ending total := by
  induction h with
  | failed h => exact ⟨[], rfl, .failed h⟩
  | ready hf h => exact ⟨[], rfl, .ready hf h⟩
  | exhausted h => exact ⟨[], rfl, .exhausted h⟩
  | cancelled h => exact ⟨[], rfl, .cancelled h⟩
  | fetched h hfetch _ ih =>
    obtain ⟨xs, rfl, hfetch⟩ := hfetch
    obtain ⟨ys, rfl, hrest⟩ := ih
    exact ⟨xs ++ ys, List.flatMap_append.symm, .fetched h hfetch hrest⟩
  | gone h hfetch hgone =>
    obtain ⟨xs, rfl, hfetch⟩ := hfetch
    exact ⟨xs, rfl, .gone h hfetch hgone⟩
  | broken h hfetch hgone =>
    obtain ⟨xs, rfl, hfetch⟩ := hfetch
    exact ⟨xs, rfl, .broken h hfetch hgone⟩

/-- What holds of all that a fetch does holds of all that a course does. -/
theorem forall_mem {P : σ → Prop} (h : w.Course Fetches left used first es ending total)
    (hP : ∀ t es r, Fetches t es r → ∀ e ∈ es, P e) : ∀ e ∈ es, P e := by
  induction h with
  | fetched _ hfetch _ ih =>
    intro e he
    rcases List.mem_append.mp he with he | he
    · exact hP _ _ _ hfetch e he
    · exact ih e he
  | gone _ hfetch _ => exact hP _ _ _ hfetch
  | broken _ hfetch _ => exact hP _ _ _ hfetch
  | _ => exact fun e he => absurd he List.not_mem_nil

/-- Where a fetch does one thing at most, a course does no more than there are fetches left. -/
theorem length_le (h : w.Course Fetches left used first es ending total)
    (hone : ∀ t es r, Fetches t es r → es.length ≤ 1) : es.length ≤ left := by
  induction h with
  | @fetched left used total last state es fs ending _ hfetch _ ih =>
    have hes := hone _ _ _ hfetch
    rw [List.length_append]
    omega
  | gone _ hfetch _ =>
    have hes := hone _ _ _ hfetch
    omega
  | broken _ hfetch _ =>
    have hes := hone _ _ _ hfetch
    omega
  | _ => exact Nat.zero_le _

end Course

/-- What a wait within its budget may do and answer. -/
def Settles (w : Wait τ) (Fetches : τ → List σ → Except Fault τ → Prop) (first : τ) (es : List σ)
    (r : Except Fault (Option τ)) : Prop :=
  ∃ ending attempts, w.Course Fetches w.attempts.toNat 0 first es ending attempts ∧
    r = w.answer attempts ending

namespace Settles

variable {w : Wait τ} {Fetches : τ → List σ → Except Fault τ → Prop} {first : τ} {es : List σ}
  {r : Except Fault (Option τ)}

theorem of_flatMap {f : σ' → List σ} {Told : τ → List σ' → Except Fault τ → Prop}
    (h : w.Settles (fun t es r => ∃ xs, es = xs.flatMap f ∧ Told t xs r) first es r) :
    ∃ xs, es = xs.flatMap f ∧ w.Settles Told first xs r := by
  obtain ⟨ending, attempts, hcourse, hr⟩ := h
  obtain ⟨xs, hes, hcourse⟩ := hcourse.of_flatMap
  exact ⟨xs, hes, ending, attempts, hcourse, hr⟩

theorem mono {Fetches' : τ → List σ → Except Fault τ → Prop} (h : w.Settles Fetches first es r)
    (hm : ∀ t es r, Fetches t es r → Fetches' t es r) : w.Settles Fetches' first es r := by
  obtain ⟨ending, attempts, hcourse, hr⟩ := h
  exact ⟨ending, attempts, hcourse.mono hm, hr⟩

theorem forall_mem {P : σ → Prop} (h : w.Settles Fetches first es r)
    (hP : ∀ t es r, Fetches t es r → ∀ e ∈ es, P e) : ∀ e ∈ es, P e := by
  obtain ⟨_, _, hcourse, _⟩ := h
  exact hcourse.forall_mem hP

theorem length_le (h : w.Settles Fetches first es r)
    (hone : ∀ t es r, Fetches t es r → es.length ≤ 1) : es.length ≤ w.attempts.toNat := by
  obtain ⟨_, _, hcourse, _⟩ := h
  exact hcourse.length_le hone

end Settles

/-! ## Steps of a wait -/

section Does

variable {keep : ε → Bool} {report : WaitEvent → ε}

theorem filter_report {e : WaitEvent} (he : keep (report e) = false) :
    [report e].filter keep = [] := by
  rw [List.filter_cons_of_neg (by rw [he]; exact Bool.false_ne_true), List.filter_nil]

/-- A pause is not told of. -/
theorem does_pause {delay : Float} (hslept : keep (report (.slept delay)) = false) :
    Does keep (pause (γ := γ) report delay) fun es _ => es = [] := by
  intro w
  rw [pause]
  split
  · exact ⟨_, (w.grows_note _).trans (World.grows_pause delay 0 _), filter_report hslept⟩
  · exact ⟨[], w.grows_pause delay 1, rfl⟩
  · next t _ =>
    split
    · exact ⟨[], .refl w, rfl⟩
    · split
      · exact ⟨[], w.grows_pauseUntil t, rfl⟩
      · exact ⟨[], w.grows_pause delay 1, rfl⟩

theorem does_report {e : WaitEvent} (he : keep (report e) = false) :
    Does keep (modify (World.note (γ := γ) (report e))) fun es _ => es = [] :=
  .note _ (filter_report he)

/-- The looking takes one of its courses. -/
theorem does_loop (w : Wait τ) (hkeep : ∀ e, e.isLooking = true → keep (report e) = false)
    {refresh : τ → Run (World ε γ) τ} {Fetches : τ → List ε → Except Fault τ → Prop}
    (hfetch : ∀ t, Does keep (refresh t).run (Fetches t)) (left used : Nat) (last : τ) :
    Does keep (w.loop report refresh left used last) fun es r =>
      w.Course Fetches left used last es r.1 r.2 := by
  induction left generalizing used last with
  | zero =>
    rw [loop]
    split
    · next h => exact .pure _ (.failed h)
    · next hf =>
      split
      · next h => exact .pure _ (.ready (by simpa using hf) h)
      · next h => exact .pure _ (.exhausted ⟨by simpa using hf, by simpa using h⟩)
  | succ left ih =>
    rw [loop]
    split
    · next h => exact .pure _ (.failed h)
    · next hf =>
      split
      · next h => exact .pure _ (.ready (by simpa using hf) h)
      · next h =>
        have hopen : w.Undecided last := ⟨by simpa using hf, by simpa using h⟩
        refine .ite_bind (.bind ((does_pause (hkeep _ rfl)).mono ?_))
          (fun _ => (does_report (hkeep _ rfl)).mono fun _ _ hes fs r hr => by rwa [hes])
          (fun _ _ _ hr => hr)
        rintro _ cut rfl
        cases cut with
        | true => exact .pure _ (.cancelled hopen)
        | false =>
          refine .bind ((does_report (hkeep _ rfl)).mono ?_)
          rintro _ _ rfl
          refine .bind ((hfetch last).mono fun es r hes => ?_)
          cases r with
          | ok state =>
            refine (ih (used + 1) state).mono fun fs r hr => ?_
            exact (Course.fetched hopen hes hr : w.Course Fetches _ used last (es ++ fs) _ _)
          | error why =>
            dsimp only
            split
            · next hgone =>
              refine .pure _ ?_
              rw [List.append_nil]
              exact .gone hopen hes (by simpa using hgone)
            · next hgone =>
              refine .pure _ ?_
              rw [List.append_nil]
              exact .broken hopen hes (by simpa using hgone)

/-- The answer, after what is logged of the ending. -/
theorem does_answer (w : Wait τ) (ending : Ending τ) (attempts : Nat) :
    Does keep (do
      if let some e := w.report? attempts ending then
        modify (World.note (report e))
      w.answer attempts ending : Run (World ε γ) (Option τ)).run
      fun es r => es = ((w.report? attempts ending).toList.map report).filter keep ∧
        r = w.answer attempts ending := by
  have hanswer : Does keep (w.answer attempts ending : Run (World ε γ) (Option τ)).run
      fun es r => es = [] ∧ r = w.answer attempts ending := by
    cases w.answer attempts ending with
    | ok a => exact .run_pure a ⟨rfl, rfl⟩
    | error f => exact .run_throw f ⟨rfl, rfl⟩
  cases w.report? attempts ending with
  | none => exact hanswer
  | some e =>
    refine .run_bind (.run_note _ (hanswer.mono ?_))
    rintro _ _ ⟨rfl, rfl⟩
    exact ⟨List.append_nil _, rfl⟩

/-- Of the end of a wait only what is logged may be told. -/
theorem does_conclude (w : Wait τ)
    (hended : ∀ condition result seconds, keep (report (.ended condition result seconds)) = false)
    (start : Float) (ending : Ending τ) (attempts : Nat) :
    Does keep (w.conclude (γ := γ) report start ending attempts).run fun es r =>
      es = ((w.report? attempts ending).toList.map report).filter keep ∧
        r = w.answer attempts ending := by
  rw [conclude]
  split
  · next r _ =>
    have hnoted : Does keep (modify fun world : World ε γ =>
        world.note (report (.ended w.condition r (world.now - start))) :
          Run (World ε γ) Unit).run fun es r => es = [] ∧ r = .ok () :=
      fun world => ⟨_, world.grows_note _, filter_report (hended ..), rfl⟩
    refine .run_bind (hnoted.mono ?_)
    rintro _ _ ⟨rfl, rfl⟩
    exact does_answer w ending attempts
  · exact does_answer w ending attempts

/-- **A wait takes one of its courses**, within its budget, and answers what the course ended
with. -/
theorem does_run (w : Wait τ) (hkeep : ∀ e, keep (report e) = false)
    {refresh : τ → Run (World ε γ) τ} {Fetches : τ → List ε → Except Fault τ → Prop}
    (hfetch : ∀ t, Does keep (refresh t).run (Fetches t)) (first : τ) :
    Does keep (w.run report refresh first).run (w.Settles Fetches first) := by
  rw [run]
  refine .run_bind (.run_get fun world => ?_)
  refine .run_bind (.run_lift ?_)
  refine (does_loop w (fun e _ => hkeep e) hfetch _ 0 first).mono fun es r hr => ?_
  refine (does_conclude w (fun _ _ _ => hkeep _) _ r.1 r.2).mono ?_
  rintro _ _ ⟨rfl, rfl⟩
  have hsilent : ((w.report? r.2 r.1).toList.map report).filter keep = [] :=
    List.filter_eq_nil_iff.mpr fun e he => by
      obtain ⟨x, -, rfl⟩ := List.mem_map.mp he
      rw [hkeep]
      exact Bool.false_ne_true
  rw [hsilent, List.append_nil]
  exact ⟨r.1, r.2, hr, rfl⟩

end Does

end Wait

end BlockStorage
