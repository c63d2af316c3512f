import BlockStorage.Proofs.Lifecycle.Prompt
import BlockStorage.Proofs.Lifecycle.Restraint

/-!
# The outcomes that are counted

A flow counts its outcome at the place where it ends, and the flow around it counts
the outcome of a failure. So one outcome is counted in all, as long as nothing fails
after the first count. Only a detach can do that: it counts, and then makes the
handle of the instance that it was detached from, for the logs.

* `Event.increments`: what events add to the metric of the outcomes.
* `Operation.outcome?`: the outcome that an operation comes to.
* `Lifecycle.Closes`: a flow counts its outcome last, if it answers at all.
* `Lifecycle.Accounts.tracked`: what the flow around it makes of that.
* `Lifecycle.perform_counted`: every changing operation counts its outcome once, but
  for that detach.
-/

namespace BlockStorage

/-! ## Counts and outcomes -/

namespace Event

/-- Whether an event asks for a change or counts an outcome. -/
def isMark : Event → Bool
  | asked r => r.changes
  | counted _ _ _ => true
  | _ => false

/-- What events add to the metric of the outcomes. -/
def increments (es : List Event) : List Sample :=
  (es.flatMap samples).filter (·.metric = .lifecycleOperations)

theorem increments_append (es fs : List Event) :
    increments (es ++ fs) = increments es ++ increments fs := by
  rw [increments, List.flatMap_append, List.filter_append]
  rfl

/-- To ask for something adds nothing. -/
theorem increments_asked (rs : List Request) : increments (rs.map .asked) = [] := by
  induction rs with
  | nil => rfl
  | cons r rs ih => exact ih

theorem requests_asked (rs : List Request) : requests (rs.map .asked) = rs := by
  induction rs with
  | nil => rfl
  | cons r rs ih => exact congrArg (r :: ·) ih

/-- An event that counts no outcome adds to other metrics at most. -/
theorem increments_singleton {e : Event} (h : e.isMark = false) : increments [e] = [] := by
  cases e with
  | counted => cases h
  | wire e =>
    cases e with
    | circuit e => cases e <;> rfl
    | _ => rfl
  | wait e => cases e <;> rfl
  | _ => rfl

/-- The marks alone tell what is added. -/
theorem increments_filter (es : List Event) : increments (es.filter isMark) = increments es := by
  induction es with
  | nil => rfl
  | cons e es ih =>
    have hcons : increments (e :: es) = increments [e] ++ increments es := increments_append [e] es
    cases h : e.isMark with
    | true => rw [List.filter_cons_of_pos h, hcons, ← ih]; exact increments_append [e] _
    | false =>
      rw [List.filter_cons_of_neg (by rw [h]; exact Bool.false_ne_true), hcons,
        increments_singleton h, ih, List.nil_append]

/-- The requests among the marks are those that ask for a change. -/
theorem requests_marks (es : List Event) :
    requests (es.filter isMark) = (requests es).filter Request.changes := by
  induction es with
  | nil => rfl
  | cons e es ih =>
    rw [requests, requests] at ih ⊢
    cases e with
    | asked r =>
      change _ = (r :: es.filterMap request?).filter Request.changes
      rw [List.filter_cons, List.filter_cons, isMark, ← ih]
      split <;> rfl
    | _ => exact ih

end Event

/-- The outcome of a failure; what was aborted has none. -/
def Fault.outcome? : Fault → Option Outcome
  | pollTimeout _ _ _ => some .timeout
  | pollCancelled _ _ => some .cancelled
  | aborted => none
  | _ => some .error

theorem Fault.eq_aborted {f : Fault} (h : f.outcome? = none) : f = .aborted := by
  cases f with
  | aborted => rfl
  | _ => cases h

namespace Operation

/-- Whether a no tells that the snapshot is still there: its deletion has been asked for. -/
def unconfirmed (asked : List Request) : Operation → Bool
  | deleteSnapshot _ => asked.any Request.changes
  | _ => false

/-- The outcome of an operation that has made these requests, by its answer or its failure. -/
def outcome? (op : Operation) (asked : List Request) : Except Fault op.Answer → Option Outcome
  | .ok a =>
    some (if op.affirms a then .success else if op.unconfirmed asked then .error else .notFound)
  | .error f => f.outcome?

/-- A detach has asked for an instance that no handle can name. -/
def Misnames (why : BadArgument) (asked : List Request) : Operation → Prop
  | detachVolume _ _ => ∃ scope id force device instanceId,
      Request.detachVolume scope id force device (some instanceId) ∈ asked ∧
        Handle.encode scope instanceId = .error why
  | _ => False

end Operation

namespace Lifecycle

variable {γ α β δ : Type} {c : Lifecycle γ}

/-- One more outcome of an operation, in the metrics. -/
def increment (c : Lifecycle γ) (operation : String) (outcome : Outcome) : Sample :=
  ⟨.lifecycleOperations, [c.backend, operation, outcome.text], .add 1.0⟩

/-- An operation counts one outcome, the one that it comes to. -/
def CountedOnce (c : Lifecycle γ) (op : Operation) (name : String) (own : List Event)
    (result : Except Fault op.Answer) : Prop :=
  ∃ o, op.outcome? (Event.requests own) result = some o ∧
    Event.increments own = [c.increment name o]

/-- What a changing operation counts, told by what it did and by its result. -/
structure Counted (c : Lifecycle γ) (op : Operation) (name : String) (own : List Event)
    (result : Except Fault op.Answer) : Prop where
  /-- It counts nothing if an argument is refused, -/
  refused : ∀ f, op.opening = .error f → Event.increments own = []
  /-- and nothing if it was aborted. -/
  aborted : result = .error .aborted → Event.increments own = []
  /-- Else it counts the outcome that it comes to, once; but a detach of an instance that no handle
  can name may count a success and then fail for that. -/
  once : ∀ s, op.opening = .ok s → result ≠ .error .aborted →
    c.CountedOnce op name own result ∨
    ∃ why, op.Misnames why (Event.requests own) ∧ result = .error (.argument why) ∧
      Event.increments own = [c.increment name .success, c.increment name .error]

/-! ## Steps that count nothing -/

/-- Whatever the world, a flow leaves these marks. -/
def Marks (flow : Flow γ α) (es : List Event) : Prop :=
  Does Event.isMark flow.run fun own _ => own = es

namespace Marks

variable {es : List Event}

theorem pure (a : α) : Marks (Pure.pure a : Flow γ α) [] := Does.run_pure a rfl

theorem throw (f : Fault) : Marks (MonadExcept.throw f : Flow γ α) [] := Does.run_throw f rfl

theorem ofExcept (e : Except Fault α) : Marks (MonadExcept.ofExcept e : Flow γ α) [] := by
  cases e with
  | ok a => exact .pure a
  | error f => exact .throw f

theorem check (e : Except BadArgument α) : Marks (Flow.check e : Flow γ α) [] := by
  cases e with
  | ok a => exact .pure a
  | error why => exact .throw _

/-- A step and what follows it, if that leaves no mark. -/
theorem bind {step : Flow γ α} {next : α → Flow γ β} (h : Marks step es)
    (hnext : ∀ a, Marks (next a) []) : Marks (step >>= next) es := by
  refine Does.run_bind (h.mono ?_)
  rintro own r rfl
  cases r with
  | error f => rfl
  | ok a =>
    refine (hnext a).mono ?_
    rintro _ _ rfl
    exact List.append_nil _

theorem outcome {step : Flow γ α} (h : Marks step es) : Marks (Run.outcome step) es :=
  Does.run_outcome h

theorem orGone {step : Flow γ α} (h : Marks step es) : Marks (Flow.orGone step) es := by
  refine .bind (.outcome h) fun r => ?_
  cases r with
  | ok a => exact .pure _
  | error f =>
    dsimp only
    split
    · exact .pure _
    · exact .throw _

/-- A call leaves a mark if it asks for a change. -/
theorem ask (r : Request) : Marks (c.ask r) ([.asked r].filter Event.isMark) := by
  refine Does.finish (c.leg r) fun now remote trace outcome hruns => ?_
  obtain ⟨_, hreported, rfl⟩ := hruns.of_after
  obtain ⟨_, hwired, rfl⟩ := hreported.of_reporting
  obtain ⟨wire, -, rfl⟩ := hwired.of_relabel
  have hwire : (wire.map Event.wire).filter Event.isMark = [] := by
    rw [List.filter_map, List.filter_eq_nil_iff.mpr (by intro e _; simp [Event.isMark])]
    rfl
  have hanswered : [Event.answered r outcome].filter Event.isMark = [] := rfl
  rw [← List.singleton_append, List.filter_append, List.filter_append, hwire, hanswered,
    List.append_nil, List.append_nil]

theorem volume? (scope id : String) : Marks (c.volume? scope id) [] := by
  refine .bind (.orGone (.ask (.describeVolumes scope [id]))) fun found => ?_
  cases found <;> exact .pure _

theorem snapshot? (scope id : String) : Marks (c.snapshot? scope id) [] := by
  refine .bind (.orGone (.ask (.describeSnapshots scope (some [id]) none))) fun found => ?_
  cases found <;> exact .pure _

theorem gone (scope id : String) : Marks (Lifecycle.gone scope id : Flow γ α) [] :=
  .bind (.check _) fun _ => .throw _

theorem refreshVolume (v : RemoteVolume) : Marks (c.refreshVolume v) [] := by
  refine .bind (.volume? _ _) fun found => ?_
  cases found with
  | none => exact .gone _ _
  | some v => exact .pure _

theorem refreshSnapshot (s : RemoteSnapshot) : Marks (c.refreshSnapshot s) [] := by
  refine .bind (.snapshot? _ _) fun found => ?_
  cases found with
  | none => exact .gone _ _
  | some s => exact .pure _

theorem refreshAttachment (scope : String) (absent : AttachmentStatus) (a : RemoteAttachment) :
    Marks (c.refreshAttachment scope absent a) [] := by
  refine .bind (.volume? _ _) fun found => ?_
  cases found with
  | none => exact .gone _ _
  | some v => exact .pure _

/-- A wait leaves no mark if its fetches leave none. -/
theorem waitFor {τ : Type} [Viewed τ] {operation condition : String} {ready failed : τ → Bool}
    {goneIsReady : Bool} {refresh : τ → Flow γ τ} {first : τ}
    (hrefresh : ∀ t, Marks (refresh t) []) :
    Marks (c.waitFor operation condition ready failed goneIsReady refresh first) [] := by
  refine Does.mono ((c.waitOf operation condition ready failed goneIsReady).does_run
    (fun _ => rfl) hrefresh first) fun es r hr => ?_
  refine List.eq_nil_iff_forall_not_mem.mpr (hr.forall_mem ?_)
  rintro t _ _ rfl e he
  exact List.not_mem_nil he

end Marks

/-! ## Flows that count last -/

variable {op : Operation} {name : String} {asked : List Request}

/-- How a flow ends that has asked for these changes: it answers and has just counted the outcome,
or it fails and has counted nothing, or the one thing is wrong that comes after the count. -/
inductive Closing (c : Lifecycle γ) (op : Operation) (name : String) (asked : List Request) :
    List Event → Except Fault op.Answer → Prop
  | answered {a : op.Answer} {o : Outcome} (h : op.outcome? asked (.ok a) = some o) :
      Closing c op name asked [.counted c.backend name o] (.ok a)
  | failed (f : Fault) : Closing c op name asked [] (.error f)
  | misnamed {why : BadArgument} (h : op.Misnames why asked) :
      Closing c op name asked [.counted c.backend name .success] (.error (.argument why))

/-- Nothing more is asked for. -/
theorem Closing.at_once {es : List Event} {r : Except Fault op.Answer}
    (h : c.Closing op name asked es r) : ∃ more rest,
      es = more.map .asked ++ rest ∧ c.Closing op name (asked ++ more) rest r := by
  refine ⟨[], es, rfl, ?_⟩
  rw [List.append_nil]
  exact h

/-- Whatever the world, a flow that has asked for some changes may ask for more, and ends so. -/
def Closes (c : Lifecycle γ) (op : Operation) (name : String) (asked : List Request)
    (flow : Flow γ op.Answer) : Prop :=
  Does Event.isMark flow.run fun es r =>
    ∃ more rest, es = more.map .asked ++ rest ∧ c.Closing op name (asked ++ more) rest r

namespace Closes

/-- A step that only asks, and what follows it. -/
theorem bind {step : Flow γ δ} {next : δ → Flow γ op.Answer}
    (h : Does Event.isMark step.run fun es _ =>
      ∃ more, es = more.map .asked ∧ ∀ d, c.Closes op name (asked ++ more) (next d)) :
    c.Closes op name asked (step >>= next) := by
  refine Does.run_bind (h.mono ?_)
  rintro _ r ⟨more, rfl, hnext⟩
  cases r with
  | error f => exact ⟨more, [], (List.append_nil _).symm, .failed f⟩
  | ok d =>
    refine (hnext d).mono ?_
    rintro _ s ⟨more', rest, rfl, hclosing⟩
    refine ⟨more ++ more', rest, ?_, ?_⟩
    · rw [List.map_append, List.append_assoc]
    · rw [← List.append_assoc]
      exact hclosing

theorem after {step : Flow γ δ} {next : δ → Flow γ op.Answer} (h : Marks step [])
    (hnext : ∀ d, c.Closes op name asked (next d)) : c.Closes op name asked (step >>= next) := by
  refine .bind (h.mono ?_)
  rintro _ _ rfl
  refine ⟨[], rfl, ?_⟩
  rw [List.append_nil]
  exact hnext

/-- One of two steps, and what follows either. -/
theorem either {p : Prop} [Decidable p] {first second : Flow γ δ} {next : δ → Flow γ op.Answer}
    (hfirst : Marks first []) (hsecond : Marks second [])
    (hnext : ∀ d, c.Closes op name asked (next d)) :
    c.Closes op name asked (if p then first >>= next else second >>= next) := by
  split
  · exact .after hfirst hnext
  · exact .after hsecond hnext

theorem asking {step : Flow γ δ} {r : Request} {next : δ → Flow γ op.Answer}
    (h : Marks step [.asked r]) (hnext : ∀ d, c.Closes op name (asked ++ [r]) (next d)) :
    c.Closes op name asked (step >>= next) := by
  refine .bind (h.mono ?_)
  rintro _ _ rfl
  exact ⟨[r], rfl, hnext⟩

theorem throw (f : Fault) : c.Closes op name asked (MonadExcept.throw f) :=
  Does.run_throw f (Closing.failed f).at_once

/-- An outcome that is counted and logged. -/
theorem count {a : op.Answer} {o : Outcome} (h : op.outcome? asked (.ok a) = some o) (level : Level)
    (message : String) (event : LogEvent) (fields : Fields) :
    c.Closes op name asked (do
      c.count name o
      Flow.log level message event fields
      return a) :=
  Does.run_bind (Does.run_note _ (Does.run_bind (Does.run_note _
    (Does.run_pure a (Closing.answered h).at_once))))

/-- A resource that is missing. -/
theorem missing {a : op.Answer} {resource : String}
    (h : op.outcome? asked (.ok a) = some .notFound) :
    c.Closes op name asked (do c.missing name resource; return a) :=
  Does.run_bind (Does.run_bind (Does.run_note _ (Does.run_note _
    (Does.run_pure a (Closing.answered h).at_once))))

end Closes

/-! ## Flows whose failures are counted -/

/-- What an operation counts, told by the changes that it asked for and by its result. -/
inductive Counting (c : Lifecycle γ) (op : Operation) (name : String) (asked : List Request) :
    List Event → Except Fault op.Answer → Prop
  | once {r : Except Fault op.Answer} {o : Outcome} (h : op.outcome? asked r = some o) :
      Counting c op name asked [.counted c.backend name o] r
  | aborted : Counting c op name asked [] (.error .aborted)
  | twice {why : BadArgument} (h : op.Misnames why asked) :
      Counting c op name asked
        [.counted c.backend name .success, .counted c.backend name .error] (.error (.argument why))

/-- A refused argument counts nothing; else an operation asks for changes and counts. -/
inductive Accounting (c : Lifecycle γ) (op : Operation) (name : String) :
    List Event → Except Fault op.Answer → Prop
  | refused {f : Fault} (h : op.opening = .error f) : Accounting c op name [] (.error f)
  | admitted {s : Option Search} {asked : List Request} {rest : List Event}
      {r : Except Fault op.Answer} (h : op.opening = .ok s)
      (hcounts : c.Counting op name asked rest r) :
      Accounting c op name (asked.map .asked ++ rest) r

/-- Whatever the world, a flow does and counts what an operation may. -/
def Accounts (c : Lifecycle γ) (op : Operation) (name : String) (flow : Flow γ op.Answer) : Prop :=
  Does Event.isMark flow.run (c.Accounting op name)

theorem Accounts.throw {f : Fault} (h : op.opening = .error f) :
    c.Accounts op name (MonadExcept.throw f) := Does.run_throw f (.refused h)

/-- A flow that checks an argument first. -/
theorem Accounts.ofExcept {e : Except Fault δ} {next : δ → Flow γ op.Answer}
    (hrefused : ∀ f, e = .error f → op.opening = .error f)
    (hnext : ∀ d, e = .ok d → c.Accounts op name (next d)) :
    c.Accounts op name (MonadExcept.ofExcept e >>= next) := by
  cases e with
  | error f => exact Does.run_bind (Does.run_throw f (.refused (hrefused f rfl)))
  | ok d => exact Does.run_bind (Does.run_pure d (hnext d rfl))

theorem Accounts.check {e : Except BadArgument δ} {next : δ → Flow γ op.Answer}
    (hrefused : ∀ why, e = .error why → op.opening = .error (.argument why))
    (hnext : ∀ d, e = .ok d → c.Accounts op name (next d)) :
    c.Accounts op name (Flow.check e >>= next) := by
  cases e with
  | error why => exact Does.run_bind (Does.run_throw _ (.refused (hrefused why rfl)))
  | ok d => exact Does.run_bind (Does.run_pure d (hnext d rfl))

/-- **A flow that counts last counts once with the flow around it**, which counts failures. -/
theorem Accounts.tracked {s : Option Search} {flow : Flow γ op.Answer} (hopen : op.opening = .ok s)
    (h : c.Closes op name [] flow) :
    c.Accounts op name (c.tracked name flow) := by
  refine Does.run_bind (Does.run_outcome (h.mono ?_))
  rintro _ r ⟨asked, rest, rfl, hclosing⟩
  cases r with
  | ok a =>
    refine Does.run_pure a ?_
    rw [List.append_nil]
    cases hclosing with
    | answered h => exact .admitted hopen (.once h)
  | error f =>
    refine Does.mono (P := fun fs s =>
      fs = (f.outcome?.map (Event.counted c.backend name)).toList ∧ s = .error f) ?_ ?_
    · dsimp only
      split
      · exact Does.run_bind (Does.run_note _ (Does.run_throw _ ⟨rfl, rfl⟩))
      · exact Does.run_bind (Does.run_note _ (Does.run_throw _ ⟨rfl, rfl⟩))
      · exact Does.run_throw _ ⟨rfl, rfl⟩
      · next htimeout hcancelled haborted =>
        refine Does.run_bind (Does.run_note _ (Does.run_bind (Does.run_note _
          (Does.run_throw _ ⟨?_, rfl⟩))))
        have herror : f.outcome? = some .error := by
          rw [Fault.outcome?] <;> assumption
        rw [herror]
        rfl
    · rintro _ _ ⟨rfl, rfl⟩
      rw [List.append_assoc]
      cases hclosing with
      | misnamed h => exact .admitted hopen (.twice h)
      | failed =>
        cases ho : f.outcome? with
        | some o => exact .admitted hopen (.once ho)
        | none =>
          obtain rfl := Fault.eq_aborted ho
          exact .admitted hopen .aborted

/-- A flow that checks one handle and then looks up what it addresses. -/
theorem Accounts.decoded {handle : String} {search : Handle → Search}
    {flow : Handle → Flow γ op.Answer}
    (hopen : op.opening = do
      let h ← (Handle.decode handle).mapError .argument
      return some (search h))
    (hflow : ∀ h, c.Closes op name [] (flow h)) :
    c.Accounts op name
      (Flow.check (Handle.decode handle) >>= fun h => c.tracked name (flow h)) := by
  refine .check (fun why hwhy => ?_) fun h hh => .tracked (s := some (search h)) ?_ (hflow h)
  · rw [hopen, hwhy]
    rfl
  · rw [hopen, hh]
    rfl

/-! ## The changing operations -/

/-- To order a volume is to ask for it, unless its source is missing. -/
theorem does_orderVolume (c : Lifecycle γ) (o : ZonedVolumeOptions) (scope : String)
    (source : Option Handle) :
    Does Event.isMark (c.orderVolume o scope source).run fun es _ =>
      ∃ more : List Request, es = more.map .asked := by
  cases source with
  | none =>
    have hasked : Marks (c.orderVolume o scope none) [_] := .bind (.ask _) fun _ => .pure _
    exact hasked.mono fun _ _ h => ⟨[_], h⟩
  | some source =>
    refine Does.run_bind ((Marks.snapshot? _ _).mono ?_)
    rintro _ r rfl
    cases r with
    | error f => exact ⟨[], rfl⟩
    | ok found =>
      cases found with
      | none => exact Does.run_pure _ ⟨[], rfl⟩
      | some s =>
        have hasked : Marks (do return some (← c.ask (.restoreVolume scope source.localId o.zone
            (.ofReal? o.sizeGb))) : Flow γ (Option RemoteVolume)) [_] :=
          .bind (.ask _) fun _ => .pure _
        exact hasked.mono fun _ _ h => ⟨[_], h⟩

theorem accounts_createVolume (c : Lifecycle γ) (name : Datum) (options : Options) :
    c.Accounts (.createVolume name options) "create_volume" (c.createVolume name options) := by
  cases options with
  | zonedVolume o =>
    refine .check (fun why hp => ?_) fun p hp => ?_
    · rw [Operation.opening, creationArguments, hp]
      rfl
    · obtain ⟨scope, source⟩ := p
      have hopen : (Operation.createVolume name (.zonedVolume o)).opening =
          .ok (source.map .snapshot) := by
        rw [Operation.opening, creationArguments, hp]
        rfl
      refine .tracked hopen (.bind ((does_orderVolume c o scope source).mono ?_))
      rintro _ _ ⟨more, rfl⟩
      refine ⟨more, rfl, fun ordered => ?_⟩
      cases ordered with
      | none => exact .missing rfl
      | some created =>
        refine .after (.waitFor .refreshVolume) fun _ => .after (.volume? _ _) fun found => ?_
        cases found with
        | none => exact .after (.check _) fun _ => .missing rfl
        | some final => exact .after (.check _) fun volume => .count rfl _ _ _ _
  | _ => exact .throw rfl

theorem accounts_attachVolume (c : Lifecycle γ) (volume node : String) (options : Options) :
    c.Accounts (.attachVolume volume node options) "attach_volume"
      (c.attachVolume volume node options) := by
  refine .ofExcept (fun f hd => ?_) fun device hd => .check (fun why hs => ?_) fun p hs => ?_
  · rw [Operation.opening, attachArguments, hd]
    rfl
  · rw [Operation.opening, attachArguments, hd, hs]
    rfl
  · obtain ⟨v, n⟩ := p
    have hopen : (Operation.attachVolume volume node options).opening = .ok none := by
      rw [Operation.opening, attachArguments, hd, hs]
      rfl
    refine .tracked hopen (.asking (.outcome (.bind (.ask _) fun _ =>
      .bind (.waitFor (.refreshAttachment _ _)) fun _ => .pure _)) fun attached => ?_)
    split
    · exact .missing rfl
    · exact .throw _
    · exact .count rfl _ _ _ _

/-- A detach counts its success before it makes the handle of the instance. -/
theorem closes_detached {volume : String} {options : Options} {scope id instanceId : String}
    {force : Bool} {device : Option String}
    (hasked : Request.detachVolume scope id force device (some instanceId) ∈ asked)
    (level : Level) (message : String) (event : LogEvent) (fields : String → Fields) :
    c.Closes (.detachVolume volume options) "detach_volume" asked (do
      c.count "detach_volume" .success
      let node ← Flow.check (Handle.encode scope instanceId)
      Flow.log level message event (fields node)
      return true) := by
  refine Does.run_bind (Does.run_note _ ?_)
  cases hnode : Handle.encode scope instanceId with
  | error why =>
    have hmisnames : Operation.Misnames why asked (.detachVolume volume options) :=
      ⟨scope, id, force, device, instanceId, hasked, hnode⟩
    exact Does.run_bind (Does.run_throw _ (Closing.misnamed hmisnames).at_once)
  | ok node =>
    have hanswered : c.Closing (.detachVolume volume options) "detach_volume" asked
        [.counted c.backend "detach_volume" .success] (.ok true) := .answered rfl
    exact Does.run_bind (Does.run_pure node (Does.run_bind (Does.run_note _
      (Does.run_pure true hanswered.at_once))))

theorem accounts_detachVolume (c : Lifecycle γ) (volume : String) (options : Options) :
    c.Accounts (.detachVolume volume options) "detach_volume" (c.detachVolume volume options) := by
  refine .check (fun why ht => ?_) fun target ht =>
    .check (fun why hs => ?_) fun p hs => ?_
  · rw [Operation.opening, detachArguments_of_target ht]
    rfl
  · rw [Operation.opening, detachArguments_eq_error ht hs]
    rfl
  · obtain ⟨v, instanceId⟩ := p
    have hopen : (Operation.detachVolume volume options).opening =
        .ok (some (.attachment v target.device instanceId)) := by
      rw [Operation.opening, detachArguments_eq_ok ht hs]
      rfl
    refine .tracked hopen (.after (.volume? _ _) fun found => ?_)
    cases found with
    | none => exact .missing rfl
    | some remote =>
      dsimp only
      split
      · next a _ =>
        refine .asking (.orGone (.ask _)) fun detaching => ?_
        cases detaching with
        | none => exact .missing rfl
        | some detaching =>
          refine .after (.waitFor (.refreshAttachment _ _)) fun _ => ?_
          exact closes_detached List.mem_cons_self _ _ _ _
      · exact .count rfl _ _ _ _

theorem accounts_removeVolume (c : Lifecycle γ) (volume : String) :
    c.Accounts (.removeVolume volume) "remove_volume" (c.removeVolume volume) := by
  refine .decoded rfl fun v => .after (.volume? _ _) fun found => ?_
  cases found with
  | none => exact .missing rfl
  | some remote =>
    refine .asking (.orGone (.ask _)) fun deleted => ?_
    dsimp only
    split
    · exact .after (.waitFor .refreshVolume) fun _ => .count rfl _ _ _ _
    · exact .count rfl _ _ _ _

theorem accounts_createSnapshot (c : Lifecycle γ) (volume : String) (options : Options) :
    c.Accounts (.createSnapshot volume options) "create_snapshot"
      (c.createSnapshot volume options) := by
  refine .decoded rfl fun v => .after (.volume? _ _) fun found => ?_
  cases found with
  | none => exact .missing rfl
  | some source =>
    -- With or without a name to be read, the rest is the same.
    refine .either (.ofExcept _) (.pure _) fun description => ?_
    refine .asking (.orGone (.ask _)) fun pending => ?_
    cases pending with
    | none => exact .missing rfl
    | some pending =>
      refine .after (.waitFor .refreshSnapshot) fun _ => .after (.snapshot? _ _) fun _ => ?_
      exact .after (.check _) fun snapshot => .count rfl _ _ _ _

theorem accounts_deleteSnapshot (c : Lifecycle γ) (snapshot : String) :
    c.Accounts (.deleteSnapshot snapshot) "delete_snapshot" (c.deleteSnapshot snapshot) := by
  refine .decoded rfl fun s => .after (.snapshot? _ _) fun found => ?_
  cases found with
  | none => exact .missing rfl
  | some _ =>
    refine .asking (.orGone (.ask _)) fun _ => .after (.snapshot? _ _) fun found => ?_
    cases found with
    | none => exact .count rfl _ _ _ _
    | some _ => exact .count rfl _ _ _ _

/-! ## All operations -/

/-- A deletion is unconfirmed by the changes that it has asked for. -/
theorem outcome?_changes (op : Operation) (asked : List Request) (r : Except Fault op.Answer) :
    op.outcome? (asked.filter Request.changes) r = op.outcome? asked r := by
  cases r with
  | error f => rfl
  | ok a =>
    have hsame : op.unconfirmed (asked.filter Request.changes) = op.unconfirmed asked := by
      cases op with
      | deleteSnapshot snapshot =>
        rw [Operation.unconfirmed, Operation.unconfirmed, List.any_filter]
        simp only [Bool.and_self]
      | _ => rfl
    rw [Operation.outcome?, Operation.outcome?, hsame]

theorem misnames_of_changes {why : BadArgument} {rs : List Request}
    (h : op.Misnames why (rs.filter Request.changes)) : op.Misnames why rs := by
  cases op with
  | detachVolume volume options =>
    obtain ⟨scope, id, force, device, instanceId, hasked, hwhy⟩ := h
    exact ⟨scope, id, force, device, instanceId, (List.mem_filter.mp hasked).1, hwhy⟩
  | _ => exact h

theorem Accounting.counted {own : List Event} {r : Except Fault op.Answer}
    (h : c.Accounting op name (own.filter Event.isMark) r) : c.Counted op name own r := by
  generalize hmarks : own.filter Event.isMark = marks at h
  cases h with
  | refused hopen =>
    have hnone : Event.increments own = [] := by
      rw [← Event.increments_filter, hmarks]
      rfl
    refine ⟨fun _ _ => hnone, fun _ => hnone, fun s hs => ?_⟩
    rw [hopen] at hs
    cases hs
  | @admitted s asked rest r hopen hcounts =>
    have hincrements : Event.increments own = Event.increments rest := by
      rw [← Event.increments_filter, hmarks, Event.increments_append, Event.increments_asked,
        List.nil_append]
    have hrest : Event.requests rest = [] := by cases hcounts <;> rfl
    have hasked : (Event.requests own).filter Request.changes = asked := by
      rw [← Event.requests_marks, hmarks, Event.requests_append, hrest, List.append_nil]
      exact Event.requests_asked asked
    rw [← hasked] at hcounts
    refine ⟨fun f hf => ?_, ?_, fun s _ hr => ?_⟩
    · rw [hopen] at hf
      cases hf
    · rintro rfl
      rw [hincrements]
      cases hcounts with
      | once h => cases h
      | aborted => rfl
    · cases hcounts with
      | once h =>
        rw [outcome?_changes] at h
        exact .inl ⟨_, h, hincrements⟩
      | aborted => exact absurd rfl hr
      | twice h => exact .inr ⟨_, misnames_of_changes h, rfl, hincrements⟩

/-- **Every changing operation counts its outcome once**, whatever the gateway, the cancellation
and the world; but for a detach of an instance that no handle can name. -/
theorem perform_counted (c : Lifecycle γ) {op : Operation} {name : String}
    (hop : op.changing? = some name) (w : World Event γ) :
    ∃ own, w.Wrote own ((c.perform op).run w).2 ∧
      c.Counted op name own ((c.perform op).run w).1 := by
  have haccounts : c.Accounts op name (c.perform op) := by
    cases op with
    | createVolume =>
      obtain rfl := Option.some.inj hop
      exact accounts_createVolume c _ _
    | attachVolume =>
      obtain rfl := Option.some.inj hop
      exact accounts_attachVolume c _ _ _
    | detachVolume =>
      obtain rfl := Option.some.inj hop
      exact accounts_detachVolume c _ _
    | removeVolume =>
      obtain rfl := Option.some.inj hop
      exact accounts_removeVolume c _
    | createSnapshot =>
      obtain rfl := Option.some.inj hop
      exact accounts_createSnapshot c _ _
    | deleteSnapshot =>
      obtain rfl := Option.some.inj hop
      exact accounts_deleteSnapshot c _
    | _ => cases hop
  obtain ⟨own, hgrows, h⟩ := haccounts w
  exact ⟨own, hgrows.wrote, h.counted⟩

/-- A provider whose volume is attached to an instance, and which detaches it at once. -/
def releasingReply (instanceId : String) : (r : Request) → Except Fault r.Answer
  | .describeVolumes scope _ => .ok [some ⟨scope, "vol-1", 8.0, "us-east-1a", .inUse,
      [⟨"vol-1", instanceId, "/dev/sdh", .attached⟩], none, none⟩]
  | .detachVolume _ _ _ _ _ => .ok ⟨"vol-1", instanceId, "/dev/sdh", .detached⟩
  | _ => .error (.notFound "" none)

/-- The flows over that provider. -/
def releasing (instanceId : String) : Lifecycle Unit where
  gateway := .prompt (releasingReply instanceId)

/-- A detach from an instance that can be named counts a success. -/
theorem released_counted :
    (Operation.detachVolume "us-east-1/vol-1" (.other .null)).changing? = some "detach_volume" ∧
    ∃ own, ({ remote := () } : World Event Unit).Wrote own
        (((releasing "i-1").perform (.detachVolume "us-east-1/vol-1" (.other .null))).run
          { remote := () }).2 ∧
      Event.increments own = [(releasing "i-1").increment "detach_volume" .success] := by
  have hop : (Operation.detachVolume "us-east-1/vol-1" (.other .null)).changing? =
      some "detach_volume" := rfl
  have htrue : (((releasing "i-1").perform (.detachVolume "us-east-1/vol-1" (.other .null))).run
      { remote := () }).1 = .ok true := eq_ok_of_toOption (by decide +kernel)
  obtain ⟨own, hwrote, hcounted⟩ := perform_counted (releasing "i-1") hop { remote := () }
  refine ⟨hop, own, hwrote, ?_⟩
  rw [htrue] at hcounted
  rcases hcounted.once _ rfl nofun with ⟨o, ho, hincrements⟩ | ⟨why, -, hfailed, -⟩
  · obtain rfl : Outcome.success = o := Option.some.inj ho
    exact hincrements
  · cases hfailed

/-- A detach from the instance `a/b` counts a success and an error. -/
theorem slashed_detach_counted_twice :
    (∃ s, (Operation.detachVolume "us-east-1/vol-1" (.other .null)).opening = .ok s) ∧
    (((releasing "a/b").perform (.detachVolume "us-east-1/vol-1" (.other .null))).run
      { remote := () }).1 ≠ .error .aborted ∧
    ¬ ∃ own, ({ remote := () } : World Event Unit).Wrote own
        (((releasing "a/b").perform (.detachVolume "us-east-1/vol-1" (.other .null))).run
          { remote := () }).2 ∧
      (releasing "a/b").CountedOnce (.detachVolume "us-east-1/vol-1" (.other .null))
        "detach_volume" own (((releasing "a/b").perform (.detachVolume "us-east-1/vol-1"
          (.other .null))).run { remote := () }).1 := by
  have houtcome : (Operation.detachVolume "us-east-1/vol-1" (.other .null)).outcome? []
      (((releasing "a/b").perform (.detachVolume "us-east-1/vol-1" (.other .null))).run
        { remote := () }).1 = some .error := by decide +kernel
  have htwice : (Event.increments (((releasing "a/b").perform (.detachVolume "us-east-1/vol-1"
      (.other .null))).run { remote := () }).2.journal).length = 2 := by decide +kernel
  refine ⟨⟨_, rfl⟩, fun haborted => ?_, ?_⟩
  · rw [haborted] at houtcome
    cases houtcome
  · rintro ⟨own, hwrote, o, -, honce⟩
    rw [hwrote.journal_eq rfl, List.nil_append, honce] at htwice
    cases htwice

end Lifecycle

end BlockStorage
