import BlockStorage.Gateway.Ec2
import BlockStorage.Proofs.Retry

/-!
# The attempts at a plan

A request is planned once and then attempted, each time with one request to the
provider at most. What the last attempt came to is turned into an answer.

* `Ec2.Makes`: one attempt at a plan. `Ec2.does_open`: with the client that it opens.
* `Ec2.Concludes`: the answer that is made of the last one.
* `Ec2.course_of_request`: every run of a request takes a course of such attempts.
-/

namespace BlockStorage.Ec2

open RetryPolicy (Guarded)
open WireEvent (isAside isAside_of_isRetrying)

variable {χ α : Type} {keep : WireEvent → Bool}

/-- What an attempt at a plan does: it sends nothing if its arguments cannot be made, and else one
request, whose reply it reads. -/
inductive Makes (keep : WireEvent → Bool) (p : Plan α) :
    List WireEvent → Except Fault (Except Fault α) → Prop
  | unsent {f : Fault} (h : p.arguments = .error f) : Makes keep p [] (.error f)
  | sent {arguments : Fields} (h : p.arguments = .ok arguments) (reply : Reply) :
      Makes keep p ([.sent p.region p.operation arguments reply].filter keep) (p.read reply)

/-- The answer that is made of an outcome. A failure that means something to the caller is
reported. -/
inductive Concludes (keep : WireEvent → Bool) (p : Plan α) :
    Except Fault (Except Fault α) → List WireEvent → Except Fault α → Prop
  | answered (answer : Except Fault α) : Concludes keep p (.ok answer) [] answer
  | meant {f meant : Fault} (h : meaning? p.call p.region p.resource f = some meant) :
      Concludes keep p (.error f) ([.failed p.call p.region f].filter keep) (.error meant)
  | passed {f : Fault} (h : meaning? p.call p.region p.resource f = none) :
      Concludes keep p (.error f) [] (.error f)

/-- A failure that means something is reported, and answered with what it means. -/
theorem Concludes.eq_of_meaning {p : Plan α} {f meant : Fault} {fs : List WireEvent}
    {answer : Except Fault α} (h : Concludes keep p (.error f) fs answer)
    (hmeaning : meaning? p.call p.region p.resource f = some meant) :
    fs = [.failed p.call p.region f].filter keep ∧ answer = .error meant := by
  cases h with
  | meant h =>
    obtain rfl := Option.some.inj (h.symm.trans hmeaning)
    exact ⟨rfl, rfl⟩
  | passed h => cases h.symm.trans hmeaning

/-- What is made of an outcome sends nothing. -/
theorem isSent_of_concludes {p : Plan α} {outcome : Except Fault (Except Fault α)}
    {fs : List WireEvent} {answer : Except Fault α}
    (h : Concludes WireEvent.isSent p outcome fs answer) : fs = [] := by
  cases h <;> rfl

/-- A fault after which even a mutation may be repeated left the provider untouched. -/
theorem isUnapplied_of_retryable {f : Fault} (h : Fault.classifyMutation f = .retryable) :
    f.isUnapplied = true := by
  by_cases hf : f.isUnapplied
  · exact hf
  · rw [Fault.classifyMutation, if_neg hf] at h
    split at h
    · cases h
    · next hne => exact absurd h hne

theorem does_exchange {client : Client χ} {region operation : String} {arguments : Fields}
    {Q : List WireEvent → Except Fault Reply → Prop}
    (h : ∀ reply, Q ([.sent region operation arguments reply].filter keep) (.ok reply)) :
    Does keep (exchange client region operation arguments).run Q := by
  intro w
  exact ⟨_, ⟨⟨_, .refl _, rfl⟩, fun _ he => he⟩, h (client.send region operation arguments _).1⟩

/-- An attempt opens a client, and then sends one request if its arguments can be made. -/
theorem does_open (settings : Ec2Settings) (client : Client χ) (p : Plan α)
    {Q : List WireEvent → Except Fault (Except Fault α) → Prop}
    (hunsent : ∀ f, p.arguments = .error f →
      Q ([.opened p.region settings.endpoint].filter keep) (.error f))
    (hsent : ∀ arguments reply, p.arguments = .ok arguments →
      Q ([.opened p.region settings.endpoint,
        .sent p.region p.operation arguments reply].filter keep) (p.read reply)) :
    Does keep (attempt settings client p).run Q := by
  refine .run_bind (.run_note _ ?_)
  dsimp only
  split
  · next f hf => exact .run_throw _ (by simpa using hunsent f hf)
  · next arguments hargs =>
    refine .run_bind (does_exchange fun reply => ?_)
    have hdone := hsent arguments reply hargs
    rw [← List.singleton_append, List.filter_append] at hdone
    dsimp only
    split
    · next f hf =>
      rw [hf] at hdone
      exact .run_throw _ (by simpa using hdone)
    · next answer hanswer =>
      rw [hanswer] at hdone
      exact .run_pure _ (by simpa using hdone)

theorem does_attempt (hkeep : ∀ e, isAside e = true → keep e = false) (settings : Ec2Settings)
    (client : Client χ) (p : Plan α) :
    Does keep (attempt settings client p).run (Makes keep p) := by
  have hopened : keep (.opened p.region settings.endpoint) = false := hkeep _ rfl
  refine does_open settings client p (fun f hf => ?_) fun arguments reply hargs => ?_
  · rw [List.filter_cons_of_neg (by simp [hopened])]
    exact .unsent hf
  · rw [List.filter_cons_of_neg (by simp [hopened])]
    exact .sent hargs reply

theorem does_conclude (hkeep : ∀ call seconds, keep (.took call seconds) = false) (p : Plan α)
    (start : Float) (outcome : Except Fault (Except Fault α)) :
    Does keep (conclude (χ := χ) p start outcome) (Concludes keep p outcome) := by
  have htook : Does keep (modify fun w : World WireEvent (Wire χ) =>
      w.note (.took p.call (w.now - start))) fun es _ => es = [] :=
    fun w => ⟨[.took p.call (w.now - start)], w.grows_note _, by simp [hkeep]⟩
  cases outcome with
  | ok answer =>
    rw [conclude]
    refine .bind (htook.mono ?_)
    rintro _ _ rfl
    exact .pure _ (.answered answer)
  | error f =>
    rw [conclude]
    split
    · next meant hmeant =>
      refine .bind (.note _ ?_)
      refine .bind (htook.mono ?_)
      rintro _ _ rfl
      refine .pure _ ?_
      rw [List.append_nil, List.append_nil]
      exact .meant hmeant
    · next hnone =>
      refine .bind (htook.mono ?_)
      rintro _ _ rfl
      exact .pure _ (.passed hnone)

/-- Only regions that are configured are not asked of the provider. -/
theorem call_eq_request {settings : Ec2Settings} {client : Client χ} {r : Request}
    (hasks : r = .listScopes → settings.regions = []) (now : Float) (wire : Wire χ) :
    (gateway settings client).call r now wire = request settings client r now wire := by
  cases r with
  | listScopes => exact if_pos (by rw [hasks rfl]; rfl)
  | _ => rfl

/-- **Every run of a request takes a course of attempts at its plan**, if it has one and is asked of
the provider at all. -/
theorem course_of_request (hkeep : ∀ e, isAside e = true → keep e = false)
    {settings : Ec2Settings} {client : Client χ} {r : Request}
    (hasks : r = .listScopes → settings.regions = []) {now : Float} {wire : Wire χ}
    {trace : List WireEvent} {answer : Except Fault r.Answer}
    (h : ((gateway settings client).call r now wire).Runs trace answer) :
    (∃ f, plan settings r = .error f ∧ trace = [] ∧ answer = .error f) ∨
      ∃ p es fs outcome, plan settings r = .ok p ∧ trace.filter keep = es ++ fs ∧
        (policy settings r).Course (Guarded keep (Makes keep p)) settings.maxRetries es outcome ∧
        Concludes keep p outcome fs answer := by
  rw [call_eq_request hasks, request] at h
  split at h
  · next p hp =>
    obtain ⟨es, fs, outcome, heq, hcourse, hconcludes⟩ :=
      RetryPolicy.course_of_runs (fun e he => hkeep e (isAside_of_isRetrying he))
        (does_attempt hkeep settings client p) (does_conclude (fun _ _ => hkeep _ rfl) p now) h
    exact .inr ⟨p, es, fs, outcome, hp, heq, hcourse, hconcludes⟩
  · next f hf =>
    obtain ⟨rfl, rfl⟩ := h.of_done
    exact .inl ⟨f, hf, rfl, rfl⟩

end BlockStorage.Ec2
