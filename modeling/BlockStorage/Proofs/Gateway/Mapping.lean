import BlockStorage.Proofs.Gateway.Attempt
import BlockStorage.Proofs.Gateway.Reply
import BlockStorage.Proofs.Retry.Delay

/-!
# What the EC2 gateway makes of failures

The last attempt at a request decides how the call ends. If the breaker rejected it, the
circuit is open to the caller as well; if its reply brought a fault, the caller gets what
the fault means, and one error is counted; else the call is answered. The attempts before
it were all replied to with faults that may pass.

* `Attempt`: what came of an attempt, as a trace tells it.
* `Ec2.Ends`: how a call ends whose last attempt is known.
* `Ec2.ends_of_runs`: every run of a call ends so.
* `Ec2.ErrorsMapped`, `Ec2.errors_mapped`: the law that follows, from the caller's side.
-/

namespace BlockStorage

variable {χ α : Type}

open RetryPolicy (Guarded)
open WireEvent (isAside)

/-! ## Attempts in a trace -/

/-- What came of an attempt. -/
inductive Attempt
  /-- A request went out and was replied to. -/
  | made (reply : Reply)
  /-- The breaker let no request out. -/
  | rejected (circuit : String) (retryAfter : Float)

/-- The attempt that an event tells of. -/
def WireEvent.attempt? : WireEvent → Option Attempt
  | sent _ _ _ reply => some (.made reply)
  | circuit (.rejected name retryAfter) => some (.rejected name retryAfter)
  | _ => none

/-- The reply to a request that went out. -/
def Attempt.reply? : Attempt → Option Reply
  | made reply => some reply
  | rejected _ _ => none

/-- The attempts that a trace tells of. -/
def attempts (trace : List WireEvent) : List Attempt := trace.filterMap WireEvent.attempt?

/-- The replies to the requests that went out. -/
def replies (trace : List WireEvent) : List Reply := (attempts trace).filterMap Attempt.reply?

/-- The errors that a trace counts in the metrics. -/
def countedErrors (trace : List WireEvent) : List Sample :=
  trace.flatMap fun e => e.samples.filter (·.metric = .gatewayErrors)

/-- Whether an event tells what became of an attempt or what that meant. -/
def isTelling (e : WireEvent) : Bool := !e.isAside

theorem isTelling_of_isAside (e : WireEvent) (h : e.isAside = true) : isTelling e = false := by
  rw [isTelling, h]
  rfl

theorem attempts_append (es fs : List WireEvent) :
    attempts (es ++ fs) = attempts es ++ attempts fs :=
  List.filterMap_append

theorem replies_append (es fs : List WireEvent) :
    replies (es ++ fs) = replies es ++ replies fs := by
  rw [replies, attempts_append, List.filterMap_append]
  rfl

theorem countedErrors_append (es fs : List WireEvent) :
    countedErrors (es ++ fs) = countedErrors es ++ countedErrors fs :=
  List.flatMap_append

theorem attempts_filter (trace : List WireEvent) :
    attempts (trace.filter isTelling) = attempts trace := by
  rw [attempts, List.filterMap_filter]
  refine List.filterMap_congr fun e _ => ?_
  cases e with
  | circuit e => cases e <;> rfl
  | _ => rfl

theorem countedErrors_filter (trace : List WireEvent) :
    countedErrors (trace.filter isTelling) = countedErrors trace := by
  induction trace with
  | nil => rfl
  | cons e trace ih =>
    rw [List.filter_cons]
    split
    · rw [← List.singleton_append, countedErrors_append, ih, ← countedErrors_append]
      rfl
    · next h =>
      have hnone : countedErrors [e] = [] := by
        cases e with
        | circuit e => cases e <;> rfl
        | sent => exact absurd rfl h
        | failed => exact absurd rfl h
        | _ => rfl
      rw [ih, ← List.singleton_append, countedErrors_append, hnone, List.nil_append]

namespace Ec2

variable {settings : Ec2Settings} {r : Request}

/-! ## What attempts come to -/

/-- What an attempt has come to, by what came of it. -/
inductive Came : Attempt → Except Fault (Except Fault α) → Prop
  | answered {reply : Reply} (h : reply.fault? = none) (a : α) : Came (.made reply) (.ok (.ok a))
  | failed {reply : Reply} {f : Fault} (h : reply.fault? = some f) (hf : f.IsRemote) :
      Came (.made reply) (.error f)
  | rejected (name : String) (retryAfter : Float) :
      Came (.rejected name retryAfter) (.error (.circuitOpen name (.real retryAfter)))

/-- An attempt whose reply brought a fault that may pass. -/
def MayPass (settings : Ec2Settings) (r : Request) (a : Attempt) : Prop :=
  ∃ reply f, a = .made reply ∧ reply.fault? = some f ∧ (policy settings r).Repeats f

theorem came_of_guarded {p : Plan r.Answer} (hp : p.Suits settings r) {es : List WireEvent}
    {outcome : Except Fault (Except Fault r.Answer)}
    (h : Guarded isTelling (Makes isTelling p) es outcome)
    (hreplies : ∀ reply ∈ replies es, r.Expects reply) :
    ∃ a, attempts es = [a] ∧ countedErrors es = [] ∧ Came a outcome := by
  cases h with
  | rejected name retryAfter => exact ⟨_, rfl, rfl, .rejected name retryAfter⟩
  | made h =>
    cases h with
    | unsent h =>
      obtain ⟨arguments, harguments, _⟩ := hp.arguments
      rw [h] at harguments
      cases harguments
    | sent _ reply =>
      refine ⟨.made reply, rfl, rfl, ?_⟩
      have hexpects : r.Expects reply := hreplies reply (List.mem_singleton.mpr rfl)
      have hread := hp.read reply hexpects
      cases hfault : reply.fault? with
      | none =>
        rw [hfault] at hread
        obtain ⟨_, hanswer, a, rfl⟩ := hread
        rw [hanswer]
        exact .answered hfault a
      | some f =>
        rw [hfault] at hread
        rw [show p.read reply = .error f from hread]
        exact .failed hfault (hexpects.isRemote hfault)

/-- Attempts that all failed in a way that may pass, but for the last, which decides the outcome. No
error is counted yet. -/
def CameThrough (settings : Ec2Settings) (r : Request) (es : List WireEvent)
    (outcome : Except Fault (Except Fault r.Answer)) : Prop :=
  ∃ before a, attempts es = before ++ [a] ∧ (∀ b ∈ before, MayPass settings r b) ∧
    countedErrors es = [] ∧ Came a outcome

/-- **A course comes through its attempts.** -/
theorem cameThrough_of_course (hretries : settings.maxRetries ≤ 1024) {p : Plan r.Answer}
    (hp : p.Suits settings r) {left : Nat} {es : List WireEvent}
    {outcome : Except Fault (Except Fault r.Answer)}
    (h : (policy settings r).Course (Guarded isTelling (Makes isTelling p)) left es outcome)
    (hreplies : ∀ reply ∈ replies es, r.Expects reply) : CameThrough settings r es outcome := by
  have hone : ∀ {es : List WireEvent} {outcome : Except Fault (Except Fault r.Answer)},
      Guarded isTelling (Makes isTelling p) es outcome →
      (∀ reply ∈ replies es, r.Expects reply) → CameThrough settings r es outcome := by
    intro es outcome h hreplies
    obtain ⟨a, ha, hcounted, hcame⟩ := came_of_guarded hp h hreplies
    exact ⟨[], a, ha, by simp, hcounted, hcame⟩
  induction h with
  | last h _ => exact hone h hreplies
  | exhausted h _ => exact hone h hreplies
  | @overdue left _ _ _ _ _ hdelay =>
    have hleft : (policy settings r).maxRetries - (left + 1) ≤ 1023 := by
      show settings.maxRetries - (left + 1) ≤ 1023
      omega
    exact absurd hdelay (Option.isSome_iff_ne_none.mp
      ((RetryPolicy.isSome_scattered?_iff (p := policy settings r) rfl rfl _).mpr hleft))
  | @again left es fs why outcome h hwhy rest ih =>
    rw [replies_append] at hreplies
    obtain ⟨a, ha, hcounted, hcame⟩ := came_of_guarded hp h fun reply hreply =>
      hreplies reply (List.mem_append_left _ hreply)
    obtain ⟨before, last, hbefore, hpass, hcounted', hlast⟩ := ih fun reply hreply =>
      hreplies reply (List.mem_append_right _ hreply)
    refine ⟨a :: before, last, ?_, List.forall_mem_cons.mpr ⟨?_, hpass⟩, ?_, hlast⟩
    · rw [attempts_append, ha, hbefore]
      rfl
    · cases hcame with
      | failed hfault _ => exact ⟨_, why, rfl, hfault, hwhy⟩
      -- A rejection by the breaker is final: no attempt would have followed it.
      | rejected name retryAfter => cases hwhy.1
    · rw [countedErrors_append, hcounted, hcounted']
      rfl

/-! ## How a call ends -/

/-- What the metrics count for a call that failed. -/
def errorSample (r : Request) (f : Fault) : Sample :=
  ⟨.gatewayErrors, ["ec2", r.meteredCall, Vocabulary.value f.errorClass], .add 1.0⟩

/-- Whether a code says that a resource is missing. -/
def SaysMissing (code : String) : Prop := ".NotFound".toList <:+ code.toList

/-- How a call ends, by what came of its last attempt: the errors that it counts, and its answer. -/
inductive Ends (settings : Ec2Settings) (r : Request) :
    Attempt → List Sample → Except Fault r.Answer → Prop
  | answered {reply : Reply} (h : reply.fault? = none) (a : r.Answer) :
      Ends settings r (.made reply) [] (.ok a)
  | missing {reply : Reply} {j : Rejection} (h : reply.fault? = some (.rejected j))
      (hcode : SaysMissing j.codeOrEmpty) (text : Option String) :
      Ends settings r (.made reply) [errorSample r (.rejected j)]
        (.error (.notFound (missingId settings r) text))
  | refused {reply : Reply} {j : Rejection} (h : reply.fault? = some (.rejected j))
      (hcode : ¬ SaysMissing j.codeOrEmpty) (text : String) :
      Ends settings r (.made reply) [errorSample r (.rejected j)]
        (.error (.remoteFailure text j.codeOrEmpty))
  | failed {reply : Reply} {t : Transport} (h : reply.fault? = some (.transport t))
      (text : String) :
      Ends settings r (.made reply) [errorSample r (.transport t)]
        (.error (.remoteFailure text t.name))
  | rejected (name : String) (retryAfter : Float) :
      Ends settings r (.rejected name retryAfter) []
        (.error (.circuitOpen name (.real retryAfter)))

theorem isNotFoundCode_iff {code : String} :
    Rejection.isNotFoundCode code = true ↔ SaysMissing code := List.isSuffixOf_iff_suffix

theorem ends_of_concludes {p : Plan r.Answer} (hp : p.Suits settings r) {a : Attempt}
    {outcome : Except Fault (Except Fault r.Answer)} (ha : Came a outcome) {fs : List WireEvent}
    {answer : Except Fault r.Answer} (h : Concludes isTelling p outcome fs answer) :
    attempts fs = [] ∧ Ends settings r a (countedErrors fs) answer := by
  have hcounted : ∀ f, countedErrors ([.failed p.call p.region f].filter isTelling) =
      [errorSample r f] := by
    intro f
    rw [hp.call]
    rfl
  cases ha with
  | answered hfault a =>
    cases h
    exact ⟨rfl, .answered hfault a⟩
  | failed hfault hf =>
    cases hf with
    | rejected j =>
      by_cases hcode : Rejection.isNotFoundCode j.codeOrEmpty
      · obtain ⟨rfl, rfl⟩ := h.eq_of_meaning (if_pos hcode)
        rw [hcounted, hp.region, hp.resource]
        exact ⟨rfl, .missing hfault (isNotFoundCode_iff.mp hcode) _⟩
      · obtain ⟨rfl, rfl⟩ := h.eq_of_meaning (if_neg hcode)
        rw [hcounted]
        exact ⟨rfl, .refused hfault (fun h => hcode (isNotFoundCode_iff.mpr h)) _⟩
    | transport t =>
      obtain ⟨rfl, rfl⟩ := h.eq_of_meaning rfl
      rw [hcounted]
      exact ⟨rfl, .failed hfault _⟩
  | rejected name retryAfter =>
    cases h with
    | meant h => cases h
    | passed _ => exact ⟨rfl, .rejected name retryAfter⟩

/-- **Every run of a call makes its attempts and ends by the last of them.** -/
theorem ends_of_runs (hretries : settings.maxRetries ≤ 1024) {client : Client χ}
    (hasks : r = .listScopes → settings.regions = []) (hsize : r.IsFinite) {now : Float}
    {wire : Wire χ} {trace : List WireEvent} {answer : Except Fault r.Answer}
    (h : ((gateway settings client).call r now wire).Runs trace answer)
    (hreplies : ∀ reply ∈ replies trace, r.Expects reply) :
    ∃ before a, attempts trace = before ++ [a] ∧ (∀ b ∈ before, MayPass settings r b) ∧
      Ends settings r a (countedErrors trace) answer := by
  obtain ⟨p, hplan, hp⟩ := gives_plan settings hsize
  obtain ⟨f, hf, _⟩ | ⟨q, es, fs, outcome, hq, htrace, hcourse, hconcludes⟩ :=
    course_of_request isTelling_of_isAside hasks h
  · rw [hplan] at hf
    cases hf
  · obtain rfl := Except.ok.inj (hplan.symm.trans hq)
    have hattempts : attempts trace = attempts es ++ attempts fs := by
      rw [← attempts_filter, htrace, attempts_append]
    have hexpects : ∀ reply ∈ replies es, r.Expects reply := by
      intro reply hreply
      refine hreplies reply ?_
      rw [replies, hattempts, List.filterMap_append]
      exact List.mem_append_left _ hreply
    obtain ⟨before, a, hbefore, hpass, hcounted, ha⟩ :=
      cameThrough_of_course hretries hp hcourse hexpects
    obtain ⟨hnone, hends⟩ := ends_of_concludes hp ha hconcludes
    refine ⟨before, a, ?_, hpass, ?_⟩
    · rw [hattempts, hbefore, hnone, List.append_nil]
    · rw [← countedErrors_filter, htrace, countedErrors_append, hcounted, List.nil_append]
      exact hends

/-- A rejection that may pass has one of the retryable codes, whether or not the call may be
repeated at will. -/
theorem mem_retryableCodes {j : Rejection} (h : (policy settings r).Repeats (.rejected j)) :
    j.codeOrEmpty ∈ Rejection.retryableCodes := by
  have hjudge : (policy settings r).judge (.rejected j) = .retryable := h.2
  rw [policy] at hjudge
  dsimp only at hjudge
  split at hjudge
  · by_contra hcode
    have hverdict : Fault.classify (.rejected j) = j.verdict := rfl
    rw [hverdict, Rejection.verdict, if_neg (by simpa using hcode)] at hjudge
    split at hjudge <;> cases hjudge
  · have hthrottled : j.isThrottling = true := isUnapplied_of_retryable hjudge
    exact List.mem_append_left _ (List.contains_iff_mem.mp hthrottled)

/-- A request that was rejected because something is missing is not repeated. -/
theorem not_mayPass {reply : Reply} {j : Rejection} (h : reply.fault? = some (.rejected j))
    (hcode : SaysMissing j.codeOrEmpty) : ¬ MayPass settings r (.made reply) := by
  rintro ⟨_, f, hmade, hf, hrepeats⟩
  cases hmade
  obtain rfl := Option.some.inj (h.symm.trans hf)
  have hnone : ∀ code ∈ Rejection.retryableCodes, Rejection.isNotFoundCode code = false := by decide
  have hmissing := hnone _ (mem_retryableCodes hrepeats)
  rw [isNotFoundCode_iff.mpr hcode] at hmissing
  cases hmissing

section Ends

variable {a : Attempt} {counted : List Sample} {answer : Except Fault r.Answer}

theorem Ends.ways (h : Ends settings r a counted answer) :
    (∃ b, answer = .ok b) ∨ (∃ id text, answer = .error (.notFound id text)) ∨
      (∃ text code, answer = .error (.remoteFailure text code)) ∨
      ∃ circuit retryAfter, answer = .error (.circuitOpen circuit retryAfter) := by
  cases h with
  | answered _ b => exact .inl ⟨b, rfl⟩
  | missing => exact .inr (.inl ⟨_, _, rfl⟩)
  | refused => exact .inr (.inr (.inl ⟨_, _, rfl⟩))
  | failed => exact .inr (.inr (.inl ⟨_, _, rfl⟩))
  | rejected => exact .inr (.inr (.inr ⟨_, _, rfl⟩))

theorem Ends.missing_iff (h : Ends settings r a counted answer) (id : String) :
    (∃ text, answer = .error (.notFound id text)) ↔ id = missingId settings r ∧
      ∃ reply j, a = .made reply ∧ reply.fault? = some (.rejected j) ∧
        SaysMissing j.codeOrEmpty := by
  cases h with
  | missing hfault hcode => simp [hfault, hcode, eq_comm]
  | refused hfault hcode => simp [hfault, hcode]
  | answered hfault => simp [hfault]
  | failed hfault => simp [hfault]
  | rejected => simp

theorem Ends.remote_iff (h : Ends settings r a counted answer) (code : String) :
    (∃ text, answer = .error (.remoteFailure text code)) ↔
      ∃ reply, a = .made reply ∧
        ((∃ j, reply.fault? = some (.rejected j) ∧ ¬ SaysMissing j.codeOrEmpty ∧
          code = j.codeOrEmpty) ∨ ∃ t, reply.fault? = some (.transport t) ∧ code = t.name) := by
  cases h with
  | missing hfault hcode => simp [hfault, hcode]
  | refused hfault hcode => simp [hfault, hcode, eq_comm]
  | answered hfault => simp [hfault]
  | failed hfault => simp [hfault, eq_comm]
  | rejected => simp

theorem Ends.opened_iff (h : Ends settings r a counted answer) :
    (∃ circuit retryAfter, answer = .error (.circuitOpen circuit retryAfter)) ↔
      ∃ circuit retryAfter, a = .rejected circuit retryAfter := by
  cases h <;> simp

theorem Ends.counted_of_failure (h : Ends settings r a counted answer)
    (hfailed : (∃ id text, answer = .error (.notFound id text)) ∨
      ∃ text code, answer = .error (.remoteFailure text code)) :
    ∃ reply f, a = .made reply ∧ reply.fault? = some f ∧ counted = [errorSample r f] := by
  cases h with
  | missing hfault => exact ⟨_, _, rfl, hfault, rfl⟩
  | refused hfault => exact ⟨_, _, rfl, hfault, rfl⟩
  | failed hfault => exact ⟨_, _, rfl, hfault, rfl⟩
  | answered => simp at hfailed
  | rejected => simp at hfailed

theorem Ends.counted_otherwise (h : Ends settings r a counted answer)
    (hother : (∃ b, answer = .ok b) ∨
      ∃ circuit retryAfter, answer = .error (.circuitOpen circuit retryAfter)) :
    counted = [] := by
  cases h with
  | answered => rfl
  | rejected => rfl
  | _ => simp at hother

end Ends

/-! ## The law -/

/-- What a caller can tell of a call whose run left `trace`. -/
structure ErrorsMapped (settings : Ec2Settings) (r : Request) (trace : List WireEvent)
    (answer : Except Fault r.Answer) : Prop where
  /-- The call is answered, or fails in one of three ways. -/
  ways : (∃ a, answer = .ok a) ∨ (∃ id text, answer = .error (.notFound id text)) ∨
    (∃ text code, answer = .error (.remoteFailure text code)) ∨
    ∃ circuit retryAfter, answer = .error (.circuitOpen circuit retryAfter)
  /-- Something is missing exactly when the last request that went out was rejected for that. -/
  missing : ∀ id, (∃ text, answer = .error (.notFound id text)) ↔
    id = missingId settings r ∧ ∃ reply j, (replies trace).getLast? = some reply ∧
      reply.fault? = some (.rejected j) ∧ SaysMissing j.codeOrEmpty
  /-- Such a request is not repeated, and no attempt follows it. -/
  unrepeated : (∃ id text, answer = .error (.notFound id text)) →
    ∃ reply, (attempts trace).getLast? = some (.made reply)
  /-- The remote side failed exactly when the last attempt sent a request and that failed
  otherwise. -/
  remote : ∀ code, (∃ text, answer = .error (.remoteFailure text code)) ↔
    ∃ reply, (attempts trace).getLast? = some (.made reply) ∧
      ((∃ j, reply.fault? = some (.rejected j) ∧ ¬ SaysMissing j.codeOrEmpty ∧
        code = j.codeOrEmpty) ∨ ∃ t, reply.fault? = some (.transport t) ∧ code = t.name)
  /-- The circuit is open exactly when the breaker rejected the last attempt. -/
  opened : (∃ circuit retryAfter, answer = .error (.circuitOpen circuit retryAfter)) ↔
    ∃ circuit retryAfter, (attempts trace).getLast? = some (.rejected circuit retryAfter)
  /-- One error is counted for a resource that is missing and for a remote failure, under the class
  of the fault that the last request failed with. -/
  counted : (∃ id text, answer = .error (.notFound id text)) ∨
      (∃ text code, answer = .error (.remoteFailure text code)) →
    ∃ reply f, (replies trace).getLast? = some reply ∧ reply.fault? = some f ∧
      countedErrors trace = [errorSample r f]
  /-- None is counted otherwise. -/
  uncounted : (∃ a, answer = .ok a) ∨
      (∃ circuit retryAfter, answer = .error (.circuitOpen circuit retryAfter)) →
    countedErrors trace = []

/-- The last reply is that of the last attempt, or of one that may pass. -/
theorem getLast?_replies {trace : List WireEvent} {before : List Attempt} {a : Attempt}
    (hattempts : attempts trace = before ++ [a]) (hpass : ∀ b ∈ before, MayPass settings r b)
    {reply : Reply} (h : (replies trace).getLast? = some reply) :
    a = .made reply ∨ MayPass settings r (.made reply) := by
  rw [replies, hattempts, List.filterMap_append] at h
  cases a with
  | made last =>
    obtain rfl : last = reply := by simpa [Attempt.reply?] using h
    exact .inl rfl
  | rejected name retryAfter =>
    have hmem : reply ∈ before.filterMap Attempt.reply? := by
      simpa [Attempt.reply?] using List.mem_of_getLast? h
    obtain ⟨b, hb, hreply⟩ := List.mem_filterMap.mp hmem
    cases b with
    | made _ =>
      obtain rfl := Option.some.inj hreply
      exact .inr (hpass _ hb)
    | rejected => cases hreply

theorem getLast?_replies_of_made {trace : List WireEvent} {before : List Attempt} {reply : Reply}
    (hattempts : attempts trace = before ++ [.made reply]) :
    (replies trace).getLast? = some reply := by
  rw [replies, hattempts, List.filterMap_append]
  exact List.getLast?_concat

/-- **Every call of the gateway maps errors completely.** -/
theorem errors_mapped (settings : Ec2Settings) (hretries : settings.maxRetries ≤ 1024)
    (client : Client χ) {r : Request} (hasks : r = .listScopes → settings.regions = [])
    (hsize : r.IsFinite) {now : Float} {wire : Wire χ} {trace : List WireEvent}
    {answer : Except Fault r.Answer}
    (h : ((gateway settings client).call r now wire).Runs trace answer)
    (hreplies : ∀ reply ∈ replies trace, r.Expects reply) :
    ErrorsMapped settings r trace answer := by
  obtain ⟨before, a, hattempts, hpass, hends⟩ := ends_of_runs hretries hasks hsize h hreplies
  have hlast : ∀ b, (attempts trace).getLast? = some b ↔ a = b := by
    intro b
    rw [hattempts, List.getLast?_concat, Option.some_inj]
  refine ⟨hends.ways, fun id => (hends.missing_iff id).trans ?_, ?_, fun code => ?_, ?_, ?_, ?_⟩
  · refine and_congr_right fun _ => ⟨?_, ?_⟩
    · rintro ⟨reply, j, rfl, hfault, hcode⟩
      exact ⟨reply, j, getLast?_replies_of_made hattempts, hfault, hcode⟩
    · rintro ⟨reply, j, hreply, hfault, hcode⟩
      obtain hmade | hmay := getLast?_replies hattempts hpass hreply
      · exact ⟨reply, j, hmade, hfault, hcode⟩
      · exact absurd hmay (not_mayPass hfault hcode)
  · rintro ⟨id, hmissing⟩
    obtain ⟨_, reply, _, hmade, _⟩ := (hends.missing_iff id).mp hmissing
    exact ⟨reply, (hlast _).mpr hmade⟩
  · simp only [hlast]
    exact hends.remote_iff code
  · simp only [hlast]
    exact hends.opened_iff
  · intro hfailed
    obtain ⟨reply, f, rfl, hfault, hcounted⟩ := hends.counted_of_failure hfailed
    exact ⟨reply, f, getLast?_replies_of_made hattempts, hfault, hcounted⟩
  · exact hends.counted_otherwise

/-- A client that is throttled at first, and then told that there is no such volume. -/
def throttledThenGone : Client Bool where
  send _ _ _ again :=
    (.fault (.rejected ⟨some (if again then "InvalidVolume.NotFound" else "Throttling"), none,
      "DeleteVolume", none⟩), true)

/-- The code that a reply rejects a request with. -/
def rejectionCode? : Reply → Option String
  | .fault (.rejected j) => j.code
  | _ => none

theorem eq_of_rejectionCode? {reply : Reply} {code : String}
    (h : rejectionCode? reply = some code) :
    ∃ j, reply = .fault (.rejected j) ∧ j.codeOrEmpty = code := by
  match reply, h with
  | .fault (.rejected j), h =>
    rw [rejectionCode?] at h
    exact ⟨j, rfl, by rw [Rejection.codeOrEmpty, h]; rfl⟩

/-- A deletion that is sent again after a throttle, and then finds nothing to delete. -/
theorem gone_volume_mapped : ∃ trace answer,
    ((gateway {} throttledThenGone).call (.deleteVolume "us-east-1" "vol-1") 0.0
      { client := false }).Runs trace answer ∧
    (replies trace).map rejectionCode? = [some "Throttling", some "InvalidVolume.NotFound"] ∧
    ErrorsMapped {} (.deleteVolume "us-east-1" "vol-1") trace answer ∧
    ∃ text, answer = .error (.notFound "us-east-1/vol-1" text) := by
  obtain ⟨own, hruns, hgrows⟩ := ((gateway {} throttledThenGone).call
    (.deleteVolume "us-east-1" "vol-1") 0.0 { client := false }).finish_grows
      { remote := { client := false } }
  have hcodes : (replies (((gateway {} throttledThenGone).call
      (.deleteVolume "us-east-1" "vol-1") 0.0 { client := false }).finish
        { remote := { client := false } }).2.journal).map rejectionCode? =
      [some "Throttling", some "InvalidVolume.NotFound"] := by decide +kernel
  rw [hgrows.wrote.journal_eq rfl, List.nil_append] at hcodes
  obtain ⟨first, _, hfirst, hthrottled, hrest⟩ := List.map_eq_cons_iff.mp hcodes
  obtain ⟨last, _, rfl, hgone, hnil⟩ := List.map_eq_cons_iff.mp hrest
  obtain rfl := List.map_eq_nil_iff.mp hnil
  obtain ⟨_, rfl, -⟩ := eq_of_rejectionCode? hthrottled
  obtain ⟨j, rfl, hj⟩ := eq_of_rejectionCode? hgone
  have hexpects : ∀ reply ∈ replies own,
      (Request.deleteVolume "us-east-1" "vol-1").Expects reply := by
    rw [hfirst]
    intro reply hreply
    rcases List.mem_pair.mp hreply with rfl | rfl <;> exact .fault (.rejected _)
  have hmapped := errors_mapped {} (by decide) throttledThenGone (by simp)
    (r := .deleteVolume "us-east-1" "vol-1") trivial hruns hexpects
  have hlast : (replies own).getLast? = some (.fault (.rejected j)) := by
    rw [hfirst]
    rfl
  have hmissing : SaysMissing j.codeOrEmpty := by
    rw [hj, ← isNotFoundCode_iff]
    decide
  exact ⟨own, _, hruns, hcodes, hmapped,
    (hmapped.missing _).mpr ⟨rfl, _, j, hlast, rfl, hmissing⟩⟩

/-- A snapshot with an id, a state and a size, whose description is null. -/
def undescribed : Fields :=
  [("SnapshotId", .text "snap-1"), ("VolumeId", .text "vol-1"), ("VolumeSize", .int 8),
    ("State", .text "pending"), ("Description", .null)]

/-- A client that answers with it. -/
def undescribing : Client Unit where
  send _ _ _ _ := (.ok (.record undescribed), ())

/-- Ids, states and sizes are not enough: a field that need not be there, but is of another kind
than it should be, fails the call in none of the mapped ways. -/
theorem undescribed_snapshot_unmapped : ∃ trace answer,
    ((gateway {} undescribing).call (.createSnapshot "us-east-1" "vol-1" "") 0.0
      { client := () }).Runs trace answer ∧
    replies trace = [.ok (.record undescribed)] ∧
    Datum.Has undescribed "SnapshotId" Datum.IsText ∧
    Datum.Has undescribed "State" (Datum.IsWord SnapshotStatus) ∧
    Datum.Has undescribed "VolumeSize" Datum.IsSize ∧
    answer = .error (.invalid [⟨["description"], .stringType⟩]) ∧
    ¬ ErrorsMapped {} (.createSnapshot "us-east-1" "vol-1" "") trace answer := by
  obtain ⟨own, hruns, hgrows⟩ := ((gateway {} undescribing).call
    (.createSnapshot "us-east-1" "vol-1" "") 0.0 { client := () }).finish_grows
      { remote := { client := () } }
  have hreplies : replies (((gateway {} undescribing).call
      (.createSnapshot "us-east-1" "vol-1" "") 0.0 { client := () }).finish
        { remote := { client := () } }).2.journal = [.ok (.record undescribed)] := rfl
  rw [hgrows.wrote.journal_eq rfl, List.nil_append] at hreplies
  have hanswer : (((gateway {} undescribing).call
      (.createSnapshot "us-east-1" "vol-1" "") 0.0 { client := () }).finish
        { remote := { client := () } }).1 =
      .error (.invalid [⟨["description"], .stringType⟩]) := rfl
  rw [hanswer] at hruns
  refine ⟨own, _, hruns, hreplies, ⟨_, rfl, .text "snap-1"⟩, ⟨_, rfl, .text SnapshotStatus.pending⟩,
    ⟨_, rfl, .whole (by decide)⟩, rfl, fun hmapped => ?_⟩
  simpa using hmapped.ways

end Ec2

end BlockStorage
