import BlockStorage.Proofs.Gateway.Attempt

/-!
# What the EC2 gateway sends again

A request that creates, attaches or detaches must not be applied twice. It goes out
again only after a reply that certainly left the provider untouched: it was
throttled, or no connection was made. Whatever else comes back, or does not, ends
the call.

* `Ec2.LeftUntouched`: the requests with such a reply.
* `Ec2.Plan.IsSingle`: a plan whose reply is one response, so that a failed attempt
  fails with the reply's own fault.
* `Ec2.mutation_resent_only_if_untouched`: the law, for every run of a call.
-/

namespace BlockStorage.Ec2

variable {χ α : Type}

open RetryPolicy (Guarded)
open WireEvent (isSent)

/-- A request that left the provider untouched: it was rejected by a throttle, or no connection was
made. -/
inductive LeftUntouched : WireEvent → Prop
  | throttled {region call : String} {arguments : Fields} {r : Rejection}
      (hcode : r.code ∈ [some "RequestLimitExceeded", some "Throttling",
        some "ThrottlingException"]) :
      LeftUntouched (.sent region call arguments (.fault (.rejected r)))
  | refused {region call endpoint : String} {arguments : Fields} :
      LeftUntouched (.sent region call arguments (.fault (.transport (.cannotConnect endpoint))))

theorem leftUntouched_of_isUnapplied {f : Fault} (h : f.isUnapplied = true) (region call : String)
    (arguments : Fields) : LeftUntouched (.sent region call arguments (.fault f)) := by
  cases f with
  | rejected r =>
    refine .throttled ?_
    obtain ⟨code, text, operation, givenUpAfter⟩ := r
    cases code with
    | none => exact absurd h Bool.false_ne_true
    | some code =>
      have hcode : code ∈ Rejection.throttlingCodes := by simpa [Fault.isUnapplied,
        Rejection.isThrottling, Rejection.codeOrEmpty] using h
      simpa [Rejection.throttlingCodes] using hcode
  | transport t =>
    cases t with
    | cannotConnect endpoint => exact .refused
    | _ => exact absurd h Bool.false_ne_true
  | _ => exact absurd h Bool.false_ne_true

/-! ## Attempts at a plan -/

/-- A plan whose reply is one response: a failed reply is the failure of the attempt. -/
def Plan.IsSingle (p : Plan α) : Prop :=
  ∃ read, ∀ reply, p.read reply = (single reply).map read

/-- What a failed attempt fails with, if it may pass, is the fault that came back. -/
theorem Plan.IsSingle.reply_eq {p : Plan α} (h : p.IsSingle) {reply : Reply} {f : Fault}
    (hread : p.read reply = .error f) (hf : f.isUnapplied = true) : reply = .fault f := by
  obtain ⟨read, hp⟩ := h
  rw [hp] at hread
  cases reply with
  | fault g =>
    obtain rfl : g = f := Except.error.inj hread
    rfl
  | ok d => cases hread
  | pages ps =>
    obtain rfl : Fault.alien .runtime "unexpected pages" = f := Except.error.inj hread
    exact absurd hf Bool.false_ne_true

/-! ## Changing requests -/

/-- The calls that must not be applied twice. -/
def mutations : List String :=
  ["create_volume", "create_volume_from_snapshot", "attach_volume", "detach_volume",
    "create_snapshot"]

/-- Each of them is answered by one response. -/
theorem isSingle_of_mutation {settings : Ec2Settings} {r : Request} (hr : r.call ∈ mutations)
    {p : Plan r.Answer} (hp : plan settings r = .ok p) : p.IsSingle := by
  have hmap : ∀ (read : Datum → Except Fault r.Answer) (reply : Reply),
      (do return read (← single reply) : Except Fault _) = (single reply).map read := by
    intro read reply
    cases single reply <;> rfl
  cases r with
  | createVolume scope sizeGb zone =>
    obtain rfl := Except.ok.inj hp
    exact ⟨volume scope, hmap _⟩
  | restoreVolume scope snapshotId zone sizeGb =>
    rw [plan] at hp
    cases hargs : restoreArguments zone snapshotId sizeGb with
    | error f =>
      rw [hargs] at hp
      cases hp
    | ok arguments =>
      rw [hargs] at hp
      obtain rfl := Except.ok.inj hp
      exact ⟨volume scope, hmap _⟩
  | attachVolume scope volumeId nodeId device =>
    obtain rfl := Except.ok.inj hp
    exact ⟨attachment, hmap _⟩
  | detachVolume scope volumeId force device nodeId =>
    obtain rfl := Except.ok.inj hp
    exact ⟨attachment, hmap _⟩
  | createSnapshot scope volumeId description =>
    obtain rfl := Except.ok.inj hp
    exact ⟨snapshot scope, hmap _⟩
  | _ => simp [Request.call, mutations] at hr

theorem isRepeatable_of_mutation {r : Request} (hr : r.call ∈ mutations) :
    r.isRepeatable = false := by
  cases r <;> first | rfl | simp [Request.call, mutations] at hr

/-- An attempt sends one request at most, which left the provider untouched if another attempt
follows. -/
theorem sends_of_mutation {settings : Ec2Settings} {r : Request} (hr : r.call ∈ mutations)
    {p : Plan r.Answer} (hp : plan settings r = .ok p) {es : List WireEvent}
    {result : Except Fault (Except Fault r.Answer)}
    (h : Guarded isSent (Makes isSent p) es result) :
    es.length ≤ 1 ∧ ∀ f, result = .error f → (policy settings r).judge f = .retryable →
      ∀ e ∈ es, LeftUntouched e := by
  have hjudge : (policy settings r).judge = Fault.classifyMutation := by
    rw [policy, isRepeatable_of_mutation hr]
    rfl
  cases h with
  | rejected name retryAfter => exact ⟨Nat.zero_le 1, fun _ _ _ e he => absurd he List.not_mem_nil⟩
  | made hmakes =>
    cases hmakes with
    | unsent _ => exact ⟨Nat.zero_le 1, fun _ _ _ e he => absurd he List.not_mem_nil⟩
    | sent _ reply =>
      refine ⟨Nat.le_refl 1, fun f hread hretry e he => ?_⟩
      rw [hjudge] at hretry
      have hf := isUnapplied_of_retryable hretry
      obtain rfl := List.mem_singleton.mp he
      rw [(isSingle_of_mutation hr hp).reply_eq hread hf]
      exact leftUntouched_of_isUnapplied hf _ _ _

theorem sends_of_runs {settings : Ec2Settings} {client : Client χ} {r : Request}
    (hr : r.call ∈ mutations) {now : Float} {wire : Wire χ} {trace : List WireEvent}
    {answer : Except Fault r.Answer}
    (h : ((gateway settings client).call r now wire).Runs trace answer) :
    (trace.filter isSent).length ≤ settings.maxRetries + 1 ∧
      ∀ e ∈ (trace.filter isSent).dropLast, LeftUntouched e := by
  have hasks : r = .listScopes → settings.regions = [] := by
    rintro rfl
    simp [Request.call, mutations] at hr
  obtain ⟨f, _, rfl, _⟩ | ⟨p, es, fs, outcome, hp, heq, hcourse, hconcludes⟩ :=
    course_of_request (fun _ => WireEvent.isSent_of_isAside) hasks h
  · exact ⟨Nat.zero_le _, fun e he => absurd he List.not_mem_nil⟩
  · rw [heq, isSent_of_concludes hconcludes, List.append_nil]
    exact hcourse.sends fun es result => sends_of_mutation hr hp

/-- **A mutation that may have been applied is never sent twice.** In every run of such a call,
whatever the breaker's state, the client's replies and what it finds after its pauses: a request is
followed by another one only if it left the provider untouched, and there are at most as many
requests as there are repetitions, and one more. -/
theorem mutation_resent_only_if_untouched (settings : Ec2Settings) (client : Client χ)
    {r : Request} (hr : r.call ∈ mutations) {now : Float} {wire : Wire χ}
    {trace : List WireEvent} {answer : Except Fault r.Answer}
    (h : ((gateway settings client).call r now wire).Runs trace answer) :
    (trace.filter isSent).length ≤ settings.maxRetries + 1 ∧
      ∀ before e after, trace.filter isSent = before ++ e :: after →
        LeftUntouched e ∨ after = [] := by
  obtain ⟨hlength, hpassed⟩ := sends_of_runs hr h
  refine ⟨hlength, fun before e after heq => ?_⟩
  cases after with
  | nil => exact Or.inr rfl
  | cons f after =>
    refine Or.inl (hpassed e ?_)
    rw [heq, List.dropLast_append_of_ne_nil (List.cons_ne_nil e (f :: after))]
    exact List.mem_append_right _ List.mem_cons_self

/-- A client that is throttled at first, and then gets no reply in time. -/
def throttledThenLost : Client Nat where
  send _ _ _ n :=
    if n = 0 then (.fault (.rejected ⟨some "Throttling", none, "CreateSnapshot", none⟩), 1)
    else (.fault (.transport (.readTimeout "https://ec2")), n + 1)

/-- A throttled snapshot is asked for again, but not once no reply has come. -/
theorem snapshot_resent_once : ∃ trace answer,
    ((gateway {} throttledThenLost).call (.createSnapshot "us-east-1" "vol-1" "nightly") 0.0
      { client := 0 }).Runs trace answer ∧
    (trace.filter isSent).length = 2 ∧ (trace.filter isSent).length ≤ 3 + 1 ∧
    ∀ before e after, trace.filter isSent = before ++ e :: after →
      LeftUntouched e ∨ after = [] := by
  obtain ⟨own, hruns, hgrows⟩ := ((gateway {} throttledThenLost).call
    (.createSnapshot "us-east-1" "vol-1" "nightly") 0.0 { client := 0 }).finish_grows
      { remote := { client := 0 } }
  have htwo : ((((gateway {} throttledThenLost).call
      (.createSnapshot "us-east-1" "vol-1" "nightly") 0.0 { client := 0 }).finish
        { remote := { client := 0 } }).2.journal.filter isSent).length = 2 := by decide +kernel
  rw [hgrows.wrote.journal_eq rfl] at htwo
  exact ⟨own, _, hruns, htwo, mutation_resent_only_if_untouched {} throttledThenLost
    (by decide) hruns⟩

end BlockStorage.Ec2
