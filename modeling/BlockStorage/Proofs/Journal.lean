import BlockStorage.Proofs.Leg
import BlockStorage.World.Turns

/-!
# Journals

A journal only grows. What a step of the caller writes into it may be interrupted
by strays, which go on whenever the caller pauses; the journal then holds both,
woven together.

* `Woven`: a list in which events of others stand among one's own.
* `World.Stray`: what the strays of a world may report.
* `World.Grows`: from one world to a later one the caller has reported `own`, and
  the strays have got no new reports to make.
* `World.grows_pause`, `Leg.finish_grows`: a pause and a whole call.
* `World.sideBySide_wrote`: calls side by side; what is left of them is a stray.
* `World.sideBySide_error`: they fail as one of them does.
-/

namespace BlockStorage

/-! ## Woven lists -/

/-- `all` holds the events `own` in their order, and among them events of others. -/
inductive Woven {ε : Type} (others : ε → Prop) : (own all : List ε) → Prop
  | nil : Woven others [] []
  | own {es all : List ε} (e : ε) (rest : Woven others es all) : Woven others (e :: es) (e :: all)
  | other {es all : List ε} {e : ε} (he : others e) (rest : Woven others es all) :
      Woven others es (e :: all)

namespace Woven

variable {ε : Type} {others others' : ε → Prop} {own own' all all' : List ε}

theorem refl (es : List ε) : Woven others es es := by
  induction es with
  | nil => exact .nil
  | cons e es ih => exact .own e ih

theorem of_others {es : List ε} (h : ∀ e ∈ es, others e) : Woven others [] es := by
  induction es with
  | nil => exact .nil
  | cons e es ih =>
    have he := h e List.mem_cons_self
    exact .other he (ih fun x hx => h x (List.mem_cons_of_mem e hx))

theorem append (h : Woven others own all) (h' : Woven others own' all') :
    Woven others (own ++ own') (all ++ all') := by
  induction h with
  | nil => exact h'
  | own e _ ih => exact .own e ih
  | other he _ ih => exact .other he ih

theorem mono (h : Woven others own all) (hm : ∀ e, others e → others' e) :
    Woven others' own all := by
  induction h with
  | nil => exact .nil
  | own e _ ih => exact .own e ih
  | other he _ ih => exact .other (hm _ he) ih

theorem sublist (h : Woven others own all) : own.Sublist all := by
  induction h with
  | nil => exact .slnil
  | own e _ ih => exact ih.cons_cons e
  | other _ _ ih => exact ih.cons _

/-- Where others have nothing to report, all events are one's own. -/
theorem eq_of_no_others (h : Woven others own all) (hn : ∀ e, ¬ others e) : all = own := by
  induction h with
  | nil => rfl
  | own e _ ih => rw [ih]
  | other he _ _ => exact absurd he (hn _)

end Woven

/-! ## Strays -/

/-- Whether a call that waits for its turn may report something. -/
def Pending.Reports {ε γ α : Type} (p : Pending ε γ α) (e : ε) : Prop :=
  ∃ now remote, (p.next now remote).Reports e

/-- Whether a call that waits for its turn may end with an answer. -/
def Pending.Answers {ε γ α : Type} (p : Pending ε γ α) (a : α) : Prop :=
  ∃ now remote trace, (p.next now remote).Runs trace a

namespace Pending

variable {ε γ α : Type} {p : Pending ε γ α}

theorem Reports.of_unheard {e : ε} (h : p.unheard.Reports e) : p.Reports e := by
  obtain ⟨now, remote, h⟩ := h
  exact ⟨now, remote, h.of_map⟩

/-- The call with a number is one of the calls, and so are the others. -/
theorem pick?_mem {number : Nat} {ps others : List (Pending ε γ α)}
    (h : pick? number ps = some (p, others)) : p ∈ ps ∧ ∀ q ∈ others, q ∈ ps := by
  induction ps generalizing others with
  | nil => simp [pick?] at h
  | cons q ps ih =>
    rw [pick?] at h
    split at h
    · simp only [Option.some.injEq, Prod.mk.injEq] at h
      obtain ⟨rfl, rfl⟩ := h
      exact ⟨List.mem_cons_self, fun r hr => List.mem_cons_of_mem _ hr⟩
    · obtain ⟨⟨r, rest⟩, hr, he⟩ := Option.map_eq_some_iff.mp h
      simp only [Prod.mk.injEq] at he
      obtain ⟨rfl, rfl⟩ := he
      obtain ⟨hmem, hsub⟩ := ih hr
      refine ⟨List.mem_cons_of_mem _ hmem, fun x hx => ?_⟩
      rcases List.mem_cons.mp hx with rfl | hx
      · exact List.mem_cons_self
      · exact List.mem_cons_of_mem _ (hsub x hx)

end Pending

namespace World

variable {ε γ α : Type}

/-- What the strays of a world may report. -/
def Stray (w : World ε γ) (e : ε) : Prop := ∃ p ∈ w.strays, p.Reports e

/-- From one world to a later one the caller has reported `own`; meanwhile strays may have reported
what they had to report. -/
def Wrote (w : World ε γ) (own : List ε) (w' : World ε γ) : Prop :=
  ∃ news, Woven w.Stray own news ∧ w'.journal = w.journal ++ news

/-- Without strays the journal grows by what the caller has reported and by nothing else. -/
theorem Wrote.journal_eq {w w' : World ε γ} {own : List ε} (h : w.Wrote own w')
    (hn : w.strays = []) : w'.journal = w.journal ++ own := by
  obtain ⟨news, hw, hj⟩ := h
  have hnone : ∀ e, ¬ w.Stray e := by
    rintro e ⟨p, hp, -⟩
    rw [hn] at hp
    exact absurd hp List.not_mem_nil
  rw [hj, hw.eq_of_no_others hnone]

/-- The caller has reported `own`, and no stray has got a new report to make. -/
structure Grows (w : World ε γ) (own : List ε) (w' : World ε γ) : Prop where
  wrote : w.Wrote own w'
  strays : ∀ e, w'.Stray e → w.Stray e

namespace Grows

variable {w w' w'' : World ε γ} {own own' : List ε}

/-- A world that only differs in its clock, its agenda and its other side. -/
theorem of_eq (hj : w'.journal = w.journal) (hs : w'.strays = w.strays) : w.Grows [] w' := by
  refine ⟨⟨[], .nil, ?_⟩, ?_⟩
  · rw [hj, List.append_nil]
  · rintro e ⟨p, hp, he⟩
    exact ⟨p, hs ▸ hp, he⟩

theorem refl (w : World ε γ) : w.Grows [] w := .of_eq rfl rfl

theorem wrote_append (h : w.Grows own w') (h' : w'.Wrote own' w'') :
    w.Wrote (own ++ own') w'' := by
  obtain ⟨⟨news, hw, hj⟩, hs⟩ := h
  obtain ⟨news', hw', hj'⟩ := h'
  refine ⟨news ++ news', hw.append (hw'.mono hs), ?_⟩
  rw [hj', hj, List.append_assoc]

theorem trans (h : w.Grows own w') (h' : w'.Grows own' w'') : w.Grows (own ++ own') w'' :=
  ⟨h.wrote_append h'.wrote, fun e he => h.strays e (h'.strays e he)⟩

end Grows

theorem grows_noteAll (es : List ε) (w : World ε γ) : w.Grows es (w.noteAll es) :=
  ⟨⟨es, .refl es, rfl⟩, fun _ h => h⟩

theorem grows_note (e : ε) (w : World ε γ) : w.Grows [e] (w.note e) := grows_noteAll [e] w

theorem grows_haltedBy (s : Halt ε γ) (w : World ε γ) : w.Grows s.trace (w.haltedBy s) :=
  ⟨⟨s.trace, .refl _, rfl⟩, fun _ h => h⟩

@[simp] theorem rest_journal (call : Nat) (delay : Float) (again : Nat) (w : World ε γ) :
    (w.rest call delay again).journal = w.journal := by
  rw [rest]
  split <;> rfl

@[simp] theorem rest_strays (call : Nat) (delay : Float) (again : Nat) (w : World ε γ) :
    (w.rest call delay again).strays = w.strays := by
  rw [rest]
  split <;> rfl

/-! ## One turn -/

/-- What a call may still report after a turn; nothing once it has answered. -/
def Remains : Pending ε γ α ⊕ α → ε → Prop
  | .inl p => p.Reports
  | .inr _ => fun _ => False

/-- A turn of a call writes down what the call may report, and leaves it no more to report. -/
theorem resume_reports (w : World ε γ) (p : Pending ε γ α) :
    ∃ es, (w.resume p).2.journal = w.journal ++ es ∧ (w.resume p).2.strays = w.strays ∧
      (∀ e ∈ es, p.Reports e) ∧ ∀ e, Remains (w.resume p).1 e → p.Reports e := by
  obtain ⟨number, pauses, next⟩ := p
  have hself : ∀ e, (next w.now w.remote).Reports e →
      Pending.Reports ⟨number, pauses, next⟩ e := fun e he => ⟨_, _, he⟩
  cases h : next w.now w.remote with
  | done s a =>
    rw [h] at hself
    simp only [resume, h]
    refine ⟨s.trace, rfl, rfl, fun e he => hself e ?_, fun e he => he.elim⟩
    exact (Leg.Runs.done s a).reports he
  | paused s delay next' =>
    rw [h] at hself
    simp only [resume, h]
    refine ⟨s.trace, rest_journal .., rest_strays .., fun e he => hself e ?_, fun e he => ?_⟩
    · exact Leg.reports_paused.mpr (Or.inl he)
    · exact hself e (Leg.reports_paused.mpr (Or.inr he))

theorem grows_resumeStray? {number : Nat} {w w' : World ε γ}
    (h : w.resumeStray? number = some w') : w.Grows [] w' := by
  rw [resumeStray?] at h
  obtain ⟨⟨p, others⟩, hpick, hw⟩ := Option.map_eq_some_iff.mp h
  obtain ⟨hp, hothers⟩ := Pending.pick?_mem hpick
  obtain ⟨es, hj, hs, hes, hrem⟩ := w.resume_reports p
  simp only at hw
  cases hr : w.resume p with
  | mk left w₁ =>
    rw [hr] at hw hj hs hrem
    have hold : ∀ e, p.Reports e → w.Stray e := fun e he => ⟨p, hp, he⟩
    cases left with
    | inl q =>
      obtain rfl : { w₁ with strays := q :: others } = w' := hw
      refine ⟨⟨es, .of_others fun e he => hold e (hes e he), hj⟩, ?_⟩
      rintro e ⟨r, hr, he⟩
      rcases List.mem_cons.mp hr with rfl | hr
      · exact hold e (hrem e he)
      · exact ⟨r, hothers r hr, he⟩
    | inr a =>
      obtain rfl : { w₁ with strays := others } = w' := hw
      refine ⟨⟨es, .of_others fun e he => hold e (hes e he), hj⟩, ?_⟩
      rintro e ⟨r, hr, he⟩
      exact ⟨r, hothers r hr, he⟩

/-! ## Pauses -/

theorem grows_untilTurn (turns : Nat) (w : World ε γ) : w.Grows [] (untilTurn turns w) := by
  induction turns generalizing w with
  | zero => exact .refl w
  | succ turns ih =>
    rw [untilTurn]
    split
    · exact .refl w
    · next t _ =>
      have hturn : w.Grows [] (w.atTurn t) := .of_eq rfl rfl
      dsimp only
      split
      · next w' hw' =>
        exact (hturn.trans (grows_resumeStray? hw')).trans (ih w')
      · exact hturn

theorem grows_awaitTurn (w : World ε γ) : w.Grows [] w.awaitTurn := grows_untilTurn _ w

/-- While the caller pauses, only strays have anything to report. -/
theorem grows_pause (delay : Float) (again : Nat) (w : World ε γ) :
    w.Grows [] (w.pause delay again) := by
  have hrest : w.Grows [] (w.rest caller delay again) := .of_eq (rest_journal ..) (rest_strays ..)
  exact hrest.trans (grows_awaitTurn _)

theorem grows_pauseUntil (time : Float) (w : World ε γ) : w.Grows [] (w.pauseUntil time) := by
  have hrest : w.Grows [] (w.restUntil caller time) := .of_eq rfl rfl
  exact hrest.trans (grows_awaitTurn _)

end World

/-- **A finished call is one of its runs.** What strays report meanwhile stands among its
reports. -/
theorem Leg.finish_grows {ε γ α : Type} {pauses : Nat} (leg : Leg ε γ α pauses) (w : World ε γ) :
    ∃ own, leg.Runs own (leg.finish w).1 ∧ w.Grows own (leg.finish w).2 := by
  induction leg generalizing w with
  | done s a => exact ⟨s.trace, .done s a, w.grows_haltedBy s⟩
  | paused s delay next ih =>
    have hpause := (w.grows_haltedBy s).trans ((w.haltedBy s).grows_pause delay 0)
    rw [List.append_nil] at hpause
    rw [Leg.finish]
    dsimp only
    generalize (w.haltedBy s).pause delay 0 = w₁ at hpause
    obtain ⟨own, hruns, hgrows⟩ := ih w₁.now w₁.remote w₁
    exact ⟨s.trace ++ own, .paused _ _ hruns, hpause.trans hgrows⟩

/-! ## Calls side by side -/

namespace World

variable {ε γ α : Type}

theorem grows_enqueue (t : Ticket) (w : World ε γ) : w.Grows [] (w.enqueue t) := .of_eq rfl rfl

theorem settle_pending (g : Gathering ε γ α) (number : Nat) (answer : Except Fault α)
    (w : World ε γ) : (g.settle number answer w).1.pending = g.pending := by
  rw [Gathering.settle.eq_def]
  split <;> rfl

theorem grows_settle (g : Gathering ε γ α) (number : Nat) (answer : Except Fault α)
    (w : World ε γ) : w.Grows [] (g.settle number answer w).2 := by
  rw [Gathering.settle.eq_def]
  split
  · exact .refl w
  · exact w.grows_enqueue _
  · dsimp only
    split
    · exact w.grows_enqueue _
    · exact .refl w

/-- From a world to a gathering in a later one: the calls have reported nothing but `mine`, and have
nothing else to report. -/
def Gathered (mine : ε → Prop) (w : World ε γ) (r : Gathering ε γ α × World ε γ) : Prop :=
  ∃ own, w.Grows own r.2 ∧ (∀ e ∈ own, mine e) ∧ ∀ p ∈ r.1.pending, ∀ e, p.Reports e → mine e

namespace Gathered

variable {mine : ε → Prop} {w w' : World ε γ}

theorem of_grows {g : Gathering ε γ α} (h : w.Grows [] w')
    (hg : ∀ p ∈ g.pending, ∀ e, p.Reports e → mine e) : Gathered mine w (g, w') :=
  ⟨[], h, fun _ he => absurd he List.not_mem_nil, hg⟩

theorem after {es : List ε} {r : Gathering ε γ α × World ε γ} (h : w.Grows es w')
    (hes : ∀ e ∈ es, mine e) (hr : Gathered mine w' r) : Gathered mine w r := by
  obtain ⟨own, hgrows, hown, hrest⟩ := hr
  refine ⟨es ++ own, h.trans hgrows, fun e he => ?_, hrest⟩
  rcases List.mem_append.mp he with he | he
  · exact hes e he
  · exact hown e he

end Gathered

/-- Calls that take turns write down what they may report, and have no more to report then. -/
theorem gathered_untilTurn {mine : ε → Prop} (turns : Nat) (g : Gathering ε γ α) (w : World ε γ)
    (hg : ∀ p ∈ g.pending, ∀ e, p.Reports e → mine e) :
    Gathered mine w (Gathering.untilTurn turns g w) := by
  induction turns generalizing g w with
  | zero => exact .of_grows (.refl w) hg
  | succ turns ih =>
    rw [Gathering.untilTurn]
    split
    · exact .of_grows (.refl w) hg
    · next t _ =>
      have hturn : w.Grows [] (w.atTurn t) := .of_eq rfl rfl
      dsimp only
      split
      · next p pending hpick =>
        obtain ⟨hp, hpending⟩ := Pending.pick?_mem hpick
        obtain ⟨es, hj, hs, hes, hrem⟩ := (w.atTurn t).resume_reports p
        have hmine : ∀ q ∈ pending, ∀ e, q.Reports e → mine e := fun q hq => hg q (hpending q hq)
        have hgrows : w.Grows es ((w.atTurn t).resume p).2 :=
          hturn.trans ⟨⟨es, .refl es, hj⟩, fun e ⟨q, hq, he⟩ => ⟨q, hs ▸ hq, he⟩⟩
        refine .after hgrows (fun e he => hg p hp e (hes e he)) ?_
        split
        · next q w₁ hr =>
          rw [hr] at hrem ⊢
          refine ih _ w₁ fun r hr e he => ?_
          rcases List.mem_cons.mp hr with rfl | hr
          · exact hg p hp e (hrem e he)
          · exact hmine r hr e he
        · next answer w₁ hr =>
          rw [hr]
          refine .after (grows_settle { g with pending } p.number answer w₁) ?_ (ih _ _ ?_)
          · exact fun e he => absurd he List.not_mem_nil
          · rw [settle_pending]
            exact hmine
      · split
        · next w₁ hstray =>
          refine .after (hturn.trans (grows_resumeStray? hstray)) ?_ (ih g w₁ hg)
          exact fun e he => absurd he List.not_mem_nil
        · exact .of_grows hturn hg

theorem grows_startAll (calls : List (Pending ε γ (Except Fault α))) (w : World ε γ) :
    w.Grows [] (calls.foldl (fun w p => w.enqueue ⟨p.number, 0⟩) w) := by
  induction calls generalizing w with
  | nil => exact .refl w
  | cons p calls ih => exact (w.grows_enqueue ⟨p.number, 0⟩).trans (ih _)

/-- **Calls side by side** write down what they may report. What is left of them when the caller
goes on is stray. -/
theorem sideBySide_wrote {mine : ε → Prop} {pauses : Nat}
    (starts : List (Float → γ → Leg ε γ (Except Fault α) pauses)) (w : World ε γ)
    (hmine : ∀ start ∈ starts, ∀ now remote e, (start now remote).Reports e → mine e) :
    ∃ own, w.Wrote own (sideBySide starts w).2 ∧ (∀ e ∈ own, mine e) ∧
      ∀ e, (sideBySide starts w).2.Stray e → w.Stray e ∨ mine e := by
  by_cases hempty : starts.isEmpty
  · have hstep : sideBySide starts w = (.ok [], w) := by rw [sideBySide, if_pos hempty]
    rw [hstep]
    exact ⟨[], (Grows.refl w).wrote, fun e he => absurd he List.not_mem_nil, fun e => Or.inl⟩
  · have hcalls : ∀ p ∈ starts.mapIdx fun i start =>
        (⟨w.issued + i + 1, pauses, start⟩ : Pending ε γ (Except Fault α)),
        ∀ e, p.Reports e → mine e := by
      intro p hp e he
      obtain ⟨i, hi, rfl⟩ := List.mem_mapIdx.mp hp
      obtain ⟨now, remote, he⟩ := he
      exact hmine _ (List.getElem_mem hi) now remote e he
    rw [sideBySide, if_neg hempty]
    dsimp only
    generalize starts.mapIdx _ = calls at hcalls ⊢
    have hissued : w.Grows [] { w with issued := w.issued + starts.length } := .of_eq rfl rfl
    have hstart := hissued.trans (grows_startAll calls _)
    generalize calls.foldl _ _ = w₁ at hstart ⊢
    have hgathered := gathered_untilTurn (Pending.turns calls + Pending.turns w₁.strays + 1)
      ⟨calls, [], none⟩ w₁ hcalls
    generalize Gathering.untilTurn _ _ w₁ = r at hgathered ⊢
    obtain ⟨g, w₂⟩ := r
    obtain ⟨own, hgrows, hown, hrest⟩ := hgathered
    have hall := hstart.trans hgrows
    have hstrays : ∀ e, World.Stray { w₂ with strays := w₂.strays ++ g.pending.map .unheard } e →
        w.Stray e ∨ mine e := by
      rintro e ⟨p, hp, he⟩
      rcases List.mem_append.mp hp with hp | hp
      · exact Or.inl (hall.strays e ⟨p, hp, he⟩)
      · obtain ⟨q, hq, rfl⟩ := List.mem_map.mp hp
        exact Or.inr (hrest q hq e he.of_unheard)
    dsimp only
    split
    · exact ⟨own, hall.wrote, hown, hstrays⟩
    · exact ⟨own, hall.wrote, hown, hstrays⟩

/-- A turn of a call brings it no answer that it could not have had before. -/
theorem resume_answers (w : World ε γ) (p : Pending ε γ α) :
    match (w.resume p).1 with
    | .inl q => ∀ a, q.Answers a → p.Answers a
    | .inr a => p.Answers a := by
  obtain ⟨number, pauses, next⟩ := p
  have hself : ∀ trace a, (next w.now w.remote).Runs trace a →
      Pending.Answers ⟨number, pauses, next⟩ a := fun trace a h => ⟨_, _, _, h⟩
  cases h : next w.now w.remote with
  | done s a =>
    rw [h] at hself
    simp only [resume, h]
    exact hself _ _ (.done s a)
  | paused s delay next' =>
    rw [h] at hself
    simp only [resume, h]
    rintro a ⟨now, remote, trace, hruns⟩
    exact hself _ _ (.paused now remote hruns)

/-- The failure that calls side by side end with is one that a call may end with by itself. -/
theorem failure_untilTurn {why : Fault → Prop} (turns : Nat) (g : Gathering ε γ α) (w : World ε γ)
    (hg : ∀ p ∈ g.pending, ∀ f, p.Answers (.error f) → why f)
    (hf : ∀ f, g.failure = some f → why f) :
    ∀ f, (Gathering.untilTurn turns g w).1.failure = some f → why f := by
  induction turns generalizing g w with
  | zero => exact hf
  | succ turns ih =>
    rw [Gathering.untilTurn]
    split
    · exact hf
    · next t _ =>
      dsimp only
      split
      · next p pending hpick =>
        obtain ⟨hp, hpending⟩ := Pending.pick?_mem hpick
        have hothers : ∀ q ∈ pending, ∀ f, q.Answers (.error f) → why f :=
          fun q hq => hg q (hpending q hq)
        have hturn := (w.atTurn t).resume_answers p
        split
        · next q w₁ hr =>
          rw [hr] at hturn
          refine ih _ w₁ (fun r hr f hrf => ?_) hf
          rcases List.mem_cons.mp hr with rfl | hr
          · exact hg p hp f (hturn _ hrf)
          · exact hothers r hr f hrf
        · next answer w₁ hr =>
          rw [hr] at hturn
          refine ih _ _ ?_ ?_
          · rw [settle_pending]
            exact hothers
          · intro f hsettled
            rw [Gathering.settle.eq_def] at hsettled
            split at hsettled
            · exact hf f hsettled
            · next f' hnone =>
              obtain rfl := Option.some.inj hsettled
              exact hg p hp _ hturn
            · exact hf f hsettled
      · split
        · next w₁ _ => exact ih g w₁ hg hf
        · exact hf

/-- **Calls side by side fail as one of them does.** -/
theorem sideBySide_error {pauses : Nat}
    {starts : List (Float → γ → Leg ε γ (Except Fault α) pauses)} {w : World ε γ} {f : Fault}
    (h : (sideBySide starts w).1 = .error f) :
    ∃ start ∈ starts, ∃ now remote trace, (start now remote).Runs trace (.error f) := by
  rw [sideBySide] at h
  split at h
  · cases h
  · have hcalls : ∀ p ∈ starts.mapIdx fun i start =>
        (⟨w.issued + i + 1, pauses, start⟩ : Pending ε γ (Except Fault α)),
        ∀ f, p.Answers (.error f) →
          ∃ start ∈ starts, ∃ now remote trace, (start now remote).Runs trace (.error f) := by
      intro p hp f hpf
      obtain ⟨i, hi, rfl⟩ := List.mem_mapIdx.mp hp
      exact ⟨_, List.getElem_mem hi, hpf⟩
    dsimp only at h
    split at h
    · next f' hfailure =>
      obtain rfl := Except.error.inj h
      exact failure_untilTurn _ _ _ hcalls (fun _ hnone => by cases hnone) _ hfailure
    · cases h

end World

end BlockStorage
