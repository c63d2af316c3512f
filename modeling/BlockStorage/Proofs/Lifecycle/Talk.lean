import BlockStorage.Lifecycle
import BlockStorage.Proofs.Wait

/-!
# What a flow says to its gateway

A flow makes one call after the other, so what it says is a list of exchanges: a
request, and what came back. `Lifecycle.Tells c flow Q` says that `Q` relates the
exchanges of a flow to its answer, whatever the world and however the gateway
answers. All else that a flow reports, to logs and metrics, is left out.

* `Lifecycle.Tells.bind`: of a flow and what follows it.
* `Lifecycle.Tells.ask`: of one call.
* `Lifecycle.tells_waitFor`: of a wait, by the courses that it may take.
* `Lifecycle.tells_volume?`, `Lifecycle.tells_refreshAttachment`, …: of the calls
  that look something up, with what is made of their outcomes.
-/

namespace BlockStorage

/-- A request, and what came back. -/
structure Exchange where
  request : Request
  outcome : Except Fault request.Answer

/-- What an exchange looks like in the journal. -/
def Exchange.events (x : Exchange) : List Event :=
  [.asked x.request, .answered x.request x.outcome]

namespace Event

/-- Whether an event belongs to an exchange. -/
def isTalk : Event → Bool
  | asked _ | answered _ _ => true
  | _ => false

def request? : Event → Option Request
  | asked r => some r
  | _ => none

def exchange? : Event → Option Exchange
  | answered r outcome => some ⟨r, outcome⟩
  | _ => none

/-- The requests that were made. -/
def requests (es : List Event) : List Request := es.filterMap request?

/-- The exchanges that came to their end. -/
def exchanges (es : List Event) : List Exchange := es.filterMap exchange?

theorem requests_append (es fs : List Event) : requests (es ++ fs) = requests es ++ requests fs :=
  List.filterMap_append

theorem requests_filter (es : List Event) : requests (es.filter isTalk) = requests es := by
  induction es with
  | nil => rfl
  | cons e es ih =>
    rw [requests] at ih ⊢
    cases e <;> simp only [List.filter_cons, isTalk, List.filterMap_cons, request?, ih, if_true,
      if_false, Bool.false_eq_true, requests]

theorem exchanges_filter (es : List Event) : exchanges (es.filter isTalk) = exchanges es := by
  induction es with
  | nil => rfl
  | cons e es ih =>
    rw [exchanges] at ih ⊢
    cases e <;> simp only [List.filter_cons, isTalk, List.filterMap_cons, exchange?, ih, if_true,
      if_false, Bool.false_eq_true, exchanges]

theorem requests_flatMap (xs : List Exchange) :
    requests (xs.flatMap Exchange.events) = xs.map (·.request) := by
  rw [requests, List.filterMap_flatMap]
  induction xs with
  | nil => rfl
  | cons x xs ih =>
    rw [List.flatMap_cons, ih]
    rfl

theorem exchanges_flatMap (xs : List Exchange) :
    exchanges (xs.flatMap Exchange.events) = xs := by
  rw [exchanges, List.filterMap_flatMap]
  induction xs with
  | nil => rfl
  | cons x xs ih =>
    rw [List.flatMap_cons, ih]
    rfl

end Event

namespace Lifecycle

variable {γ α β : Type} {c : Lifecycle γ}

/-- Whether the gateway may answer a request so. -/
def Answers (c : Lifecycle γ) (x : Exchange) : Prop :=
  ∃ now remote trace, (c.gateway.call x.request now remote).Runs trace x.outcome

/-- Whatever the world, `Q` holds of the exchanges of a flow and of its answer. -/
def Tells (c : Lifecycle γ) (flow : Flow γ α) (Q : List Exchange → Except Fault α → Prop) : Prop :=
  Does Event.isTalk flow.run fun es r =>
    ∃ xs, es = xs.flatMap Exchange.events ∧ (∀ x ∈ xs, c.Answers x) ∧ Q xs r

/-! ## What is made of an outcome -/

/-- Nothing, where something is missing. -/
def orNone : Except Fault α → Except Fault (Option α)
  | .ok a => .ok (some a)
  | .error f => if f.isNotFound then .ok none else .error f

/-- The first volume with a local id among those of an answer. -/
def volumeAmong (id : String) (answers : List (Option RemoteVolume)) : Option RemoteVolume :=
  (answers.filterMap fun v => v).find? (·.volumeId == id)

/-- The first snapshot with a local id among those of an answer. -/
def snapshotAmong (id : String) (answers : List (Option RemoteSnapshot)) : Option RemoteSnapshot :=
  (answers.filterMap fun s => s).find? (·.snapshotId == id)

theorem volumeAmong_some {id : String} {answers : List (Option RemoteVolume)} {v : RemoteVolume}
    (h : volumeAmong id answers = some v) : some v ∈ answers ∧ v.volumeId = id := by
  obtain ⟨o, ho, rfl⟩ := List.mem_filterMap.mp (List.mem_of_find?_eq_some h)
  exact ⟨ho, by simpa using List.find?_some h⟩

theorem volumeAmong_of_mem {id : String} {answers : List (Option RemoteVolume)} {v : RemoteVolume}
    (h : some v ∈ answers) (hid : v.volumeId = id) : ∃ v', volumeAmong id answers = some v' := by
  refine Option.isSome_iff_exists.mp (List.find?_isSome.mpr ⟨v, ?_, by simpa using hid⟩)
  exact List.mem_filterMap.mpr ⟨some v, h, rfl⟩

theorem snapshotAmong_some {id : String} {answers : List (Option RemoteSnapshot)}
    {s : RemoteSnapshot} (h : snapshotAmong id answers = some s) :
    some s ∈ answers ∧ s.snapshotId = id := by
  obtain ⟨o, ho, rfl⟩ := List.mem_filterMap.mp (List.mem_of_find?_eq_some h)
  exact ⟨ho, by simpa using List.find?_some h⟩

theorem snapshotAmong_of_mem {id : String} {answers : List (Option RemoteSnapshot)}
    {s : RemoteSnapshot} (h : some s ∈ answers) (hid : s.snapshotId = id) :
    ∃ s', snapshotAmong id answers = some s' := by
  refine Option.isSome_iff_exists.mp (List.find?_isSome.mpr ⟨s, ?_, by simpa using hid⟩)
  exact List.mem_filterMap.mpr ⟨some s, h, rfl⟩

/-- What a look at a volume finds. -/
def foundVolume (id : String) (outcome : Except Fault (List (Option RemoteVolume))) :
    Except Fault (Option RemoteVolume) :=
  (orNone outcome).map (·.bind (volumeAmong id))

/-- What a look at a snapshot finds. -/
def foundSnapshot (id : String) (outcome : Except Fault (List (Option RemoteSnapshot))) :
    Except Fault (Option RemoteSnapshot) :=
  (orNone outcome).map (·.bind (snapshotAmong id))

/-- What a look has found is among its answers. -/
theorem among_of_found {β : Type} {among : α → Option β} {outcome : Except Fault α} {b : β}
    (h : (orNone outcome).map (·.bind among) = .ok (some b)) :
    ∃ answers, outcome = .ok answers ∧ among answers = some b := by
  cases outcome with
  | error f =>
    rw [orNone] at h
    split at h <;> cases h
  | ok answers => exact ⟨answers, rfl, Except.ok.inj h⟩

/-- The fault of a resource that is missing. -/
def goneFault (scope id : String) : Fault :=
  match Handle.encode scope id with
  | .ok handle => .notFound handle none
  | .error why => .argument why

/-- Fails where nothing was found. -/
def orMissing (scope id : String) : Except Fault (Option α) → Except Fault α
  | .ok (some a) => .ok a
  | .ok none => .error (goneFault scope id)
  | .error f => .error f

/-- The attachment as its volume shows it; one that the volume does not show has the status
`absent`. -/
def attachmentOn (absent : AttachmentStatus) (a : RemoteAttachment) (v : RemoteVolume) :
    RemoteAttachment :=
  (v.attachment? (some a.device) (some a.instanceId)).getD { a with status := absent }

/-- A look at a volume, and what it looks like then. -/
def VolumeLook (v : RemoteVolume) (xs : List Exchange) (r : Except Fault RemoteVolume) : Prop :=
  ∃ outcome, xs = [⟨.describeVolumes v.scope [v.volumeId], outcome⟩] ∧
    r = orMissing v.scope v.volumeId (foundVolume v.volumeId outcome)

/-- A look at a snapshot, and what it looks like then. -/
def SnapshotLook (s : RemoteSnapshot) (xs : List Exchange) (r : Except Fault RemoteSnapshot) :
    Prop :=
  ∃ outcome, xs = [⟨.describeSnapshots s.scope (some [s.snapshotId]) none, outcome⟩] ∧
    r = orMissing s.scope s.snapshotId (foundSnapshot s.snapshotId outcome)

/-- A look at the volume of an attachment, and what the attachment looks like then. -/
def AttachmentLook (scope : String) (absent : AttachmentStatus) (a : RemoteAttachment)
    (xs : List Exchange) (r : Except Fault RemoteAttachment) : Prop :=
  ∃ outcome, xs = [⟨.describeVolumes scope [a.volumeId], outcome⟩] ∧
    r = (orMissing scope a.volumeId (foundVolume a.volumeId outcome)).map (attachmentOn absent a)

/-- The wait within the budget of an operation. -/
def waitOf {τ : Type} (c : Lifecycle γ) (operation condition : String) (ready failed : τ → Bool)
    (goneIsReady : Bool) : Wait τ where
  condition := condition
  attempts := (c.budgets.budgetFor operation).maxAttempts
  delay := (c.budgets.budgetFor operation).delay
  ready := ready
  failed := failed
  goneIsReady := goneIsReady

/-! ## Rules -/

namespace Tells

theorem mono {flow : Flow γ α} {P Q : List Exchange → Except Fault α → Prop} (h : c.Tells flow P)
    (hm : ∀ xs r, P xs r → Q xs r) : c.Tells flow Q :=
  Does.mono h fun _ _ ⟨xs, hes, hxs, hP⟩ => ⟨xs, hes, hxs, hm _ _ hP⟩

/-- What holds of the exchanges of a flow holds of those that it adds to the journal. -/
theorem wrote {flow : Flow γ α} {Q : List Exchange → Except Fault α → Prop}
    (h : c.Tells flow Q) (w : World Event γ) :
    ∃ own, w.Wrote own (flow.run w).2 ∧ (∀ x ∈ Event.exchanges own, c.Answers x) ∧
      Q (Event.exchanges own) (flow.run w).1 := by
  obtain ⟨own, hgrows, xs, hxs, hanswers, hQ⟩ := h w
  refine ⟨own, hgrows.wrote, ?_⟩
  rw [← Event.exchanges_filter, hxs, Event.exchanges_flatMap]
  exact ⟨hanswers, hQ⟩

/-- What a flow reports without a call does not count. -/
theorem of_silent {flow : Flow γ α} {Q : List Exchange → Except Fault α → Prop}
    (h : Does Event.isTalk flow.run fun es r => es = [] ∧ Q [] r) : c.Tells flow Q :=
  h.mono fun _ _ ⟨hes, hQ⟩ => ⟨[], hes, fun _ hx => absurd hx List.not_mem_nil, hQ⟩

theorem pure {Q : List Exchange → Except Fault α → Prop} (a : α) (h : Q [] (.ok a)) :
    c.Tells (Pure.pure a) Q := of_silent (.run_pure a ⟨rfl, h⟩)

theorem throw {Q : List Exchange → Except Fault α → Prop} (f : Fault) (h : Q [] (.error f)) :
    c.Tells (MonadExcept.throw f) Q := of_silent (.run_throw f ⟨rfl, h⟩)

theorem bind {step : Flow γ α} {next : α → Flow γ β} {Q : List Exchange → Except Fault β → Prop}
    (h : c.Tells step fun xs r => match r with
      | .ok a => c.Tells (next a) fun ys s => Q (xs ++ ys) s
      | .error f => Q xs (.error f)) : c.Tells (step >>= next) Q := by
  refine .run_bind (Does.mono h ?_)
  rintro _ r ⟨xs, rfl, hxs, hr⟩
  cases r with
  | error f => exact ⟨xs, rfl, hxs, hr⟩
  | ok a =>
    refine Does.mono hr ?_
    rintro _ s ⟨ys, rfl, hys, hQ⟩
    refine ⟨xs ++ ys, List.flatMap_append.symm, fun x hx => ?_, hQ⟩
    rcases List.mem_append.mp hx with hx | hx
    · exact hxs x hx
    · exact hys x hx

theorem outcome {step : Flow γ α} {Q : List Exchange → Except Fault (Except Fault α) → Prop}
    (h : c.Tells step fun xs r => Q xs (.ok r)) : c.Tells (Run.outcome step) Q :=
  Does.run_outcome h

theorem ofExcept {Q : List Exchange → Except Fault α → Prop} (e : Except Fault α) (h : Q [] e) :
    c.Tells (MonadExcept.ofExcept e) Q := by
  cases e with
  | ok a => exact .pure a h
  | error f => exact .throw f h

/-- A refused argument as a fault. -/
theorem check {Q : List Exchange → Except Fault α → Prop} (e : Except BadArgument α)
    (h : Q [] (e.mapError .argument)) : c.Tells (Flow.check e) Q := by
  cases e with
  | ok a => exact .pure a h
  | error why => exact .throw _ h

theorem note {Q : List Exchange → Except Fault Unit → Prop} (e : Event)
    (he : e.isTalk = false) (h : Q [] (.ok ())) : c.Tells (Flow.note e) Q := by
  refine of_silent (.run_note e ⟨?_, h⟩)
  rw [List.filter_cons_of_neg (by rw [he]; exact Bool.false_ne_true), List.filter_nil]

theorem count {Q : List Exchange → Except Fault Unit → Prop} (operation : String)
    (outcome : Outcome) (h : Q [] (.ok ())) : c.Tells (c.count operation outcome) Q :=
  .note _ rfl h

theorem log {Q : List Exchange → Except Fault Unit → Prop} (level : Level) (message : String)
    (event : LogEvent) (fields : Fields) (h : Q [] (.ok ())) :
    c.Tells (Flow.log level message event fields) Q := .note _ rfl h

theorem missing {Q : List Exchange → Except Fault Unit → Prop} (operation resource : String)
    (h : Q [] (.ok ())) : c.Tells (c.missing operation resource) Q :=
  .bind (.count _ _ (.log _ _ _ _ h))

/-- One call is one exchange. -/
theorem ask {r : Request} {Q : List Exchange → Except Fault r.Answer → Prop}
    (h : ∀ outcome, Q [⟨r, outcome⟩] outcome) : c.Tells (c.ask r) Q := by
  refine Does.finish (c.leg r) fun now remote trace outcome hruns => ?_
  obtain ⟨_, hreported, rfl⟩ := hruns.of_after
  obtain ⟨_, hwired, rfl⟩ := hreported.of_reporting
  obtain ⟨wire, hcall, rfl⟩ := hwired.of_relabel
  refine ⟨[⟨r, outcome⟩], ?_, ?_, h outcome⟩
  · have hwire : (wire.map Event.wire).filter Event.isTalk = [] := by
      rw [List.filter_map, List.filter_eq_nil_iff.mpr (by intro e _; simp [Event.isTalk])]
      rfl
    rw [List.filter_cons_of_pos (by rfl), List.filter_append, hwire]
    rfl
  · intro x hx
    obtain rfl := List.mem_singleton.mp hx
    exact ⟨now, remote, wire, hcall⟩

theorem orGone {step : Flow γ α} {Q : List Exchange → Except Fault (Option α) → Prop}
    (h : c.Tells step fun xs r => Q xs (orNone r)) : c.Tells (Flow.orGone step) Q := by
  refine .bind (.outcome (h.mono fun xs r hr => ?_))
  cases r with
  | ok a =>
    refine .pure _ ?_
    rw [List.append_nil]
    exact hr
  | error f =>
    dsimp only
    split
    · next hf =>
      refine .pure _ ?_
      rw [List.append_nil]
      rw [orNone, if_pos hf] at hr
      exact hr
    · next hf =>
      refine .throw _ ?_
      rw [List.append_nil]
      rw [orNone, if_neg hf] at hr
      exact hr

/-- A flow whose outcome is counted says and answers what it does by itself. -/
theorem tracked {operation : String} {flow : Flow γ α} {Q : List Exchange → Except Fault α → Prop}
    (h : c.Tells flow Q) : c.Tells (c.tracked operation flow) Q := by
  refine .bind (.outcome (h.mono fun xs r hr => ?_))
  cases r with
  | ok a =>
    refine .pure _ ?_
    rw [List.append_nil]
    exact hr
  | error f =>
    have hthrow : c.Tells (MonadExcept.throw f : Flow γ α) fun ys s => Q (xs ++ ys) s := by
      refine .throw f ?_
      rw [List.append_nil]
      exact hr
    dsimp only
    split
    · exact .bind (.count _ _ hthrow)
    · exact .bind (.count _ _ hthrow)
    · exact hthrow
    · exact .bind (.count _ _ (.bind (.log _ _ _ _ hthrow)))

/-! ## Looking resources up -/

theorem volume? {scope id : String} {Q : List Exchange → Except Fault (Option RemoteVolume) → Prop}
    (h : ∀ outcome, Q [⟨.describeVolumes scope [id], outcome⟩] (foundVolume id outcome)) :
    c.Tells (c.volume? scope id) Q := by
  refine .bind (.orGone (.ask fun outcome => ?_))
  have hQ := h outcome
  rw [foundVolume] at hQ
  cases hr : orNone outcome with
  | error f =>
    rw [hr] at hQ
    exact hQ
  | ok answers =>
    rw [hr] at hQ
    cases answers <;> exact .pure _ hQ

theorem snapshot? {scope id : String}
    {Q : List Exchange → Except Fault (Option RemoteSnapshot) → Prop}
    (h : ∀ outcome, Q [⟨.describeSnapshots scope (some [id]) none, outcome⟩]
      (foundSnapshot id outcome)) : c.Tells (c.snapshot? scope id) Q := by
  refine .bind (.orGone (.ask fun outcome => ?_))
  have hQ := h outcome
  rw [foundSnapshot] at hQ
  cases hr : orNone outcome with
  | error f =>
    rw [hr] at hQ
    exact hQ
  | ok answers =>
    rw [hr] at hQ
    cases answers <;> exact .pure _ hQ

theorem gone {scope id : String} {Q : List Exchange → Except Fault α → Prop}
    (h : Q [] (.error (goneFault scope id))) : c.Tells (Lifecycle.gone scope id) Q := by
  refine .bind (.check _ ?_)
  rw [goneFault] at h
  cases hid : Handle.encode scope id with
  | ok handle =>
    rw [hid] at h
    exact .throw _ h
  | error why =>
    rw [hid] at h
    exact h

/-! ## Waits -/

/-- A wait that looks by one call after the other. -/
theorem waitFor {τ : Type} [Viewed τ] {operation condition : String} {ready failed : τ → Bool}
    {goneIsReady : Bool} {refresh : τ → Flow γ τ} {first : τ}
    {Q : List Exchange → Except Fault (Option τ) → Prop}
    {Looks : τ → List Exchange → Except Fault τ → Prop}
    (hrefresh : ∀ t, c.Tells (refresh t) (Looks t))
    (h : ∀ xs r, (c.waitOf operation condition ready failed goneIsReady).Settles Looks first xs r →
      Q xs r) :
    c.Tells (c.waitFor operation condition ready failed goneIsReady refresh first) Q := by
  have hkeep : ∀ e, Event.isTalk (.wait e) = false := fun _ => rfl
  refine Does.mono ((c.waitOf operation condition ready failed goneIsReady).does_run hkeep
    hrefresh first) fun es r hr => ?_
  obtain ⟨xs, rfl, hsettles⟩ := hr.of_flatMap
  exact ⟨xs, rfl, hsettles.forall_mem fun _ _ _ hlook => hlook.1,
    h xs r (hsettles.mono fun _ _ _ hlook => hlook.2)⟩

theorem refreshVolume (v : RemoteVolume) : c.Tells (c.refreshVolume v) (VolumeLook v) := by
  refine .bind (.volume? fun outcome => ?_)
  have hlook : VolumeLook v _ _ := ⟨outcome, rfl, rfl⟩
  cases hr : foundVolume v.volumeId outcome with
  | error f =>
    rw [hr] at hlook
    exact hlook
  | ok found =>
    rw [hr] at hlook
    cases found with
    | none => exact .gone hlook
    | some v' => exact .pure _ hlook

theorem refreshSnapshot (s : RemoteSnapshot) : c.Tells (c.refreshSnapshot s) (SnapshotLook s) := by
  refine .bind (.snapshot? fun outcome => ?_)
  have hlook : SnapshotLook s _ _ := ⟨outcome, rfl, rfl⟩
  cases hr : foundSnapshot s.snapshotId outcome with
  | error f =>
    rw [hr] at hlook
    exact hlook
  | ok found =>
    rw [hr] at hlook
    cases found with
    | none => exact .gone hlook
    | some s' => exact .pure _ hlook

theorem refreshAttachment (scope : String) (absent : AttachmentStatus) (a : RemoteAttachment) :
    c.Tells (c.refreshAttachment scope absent a) (AttachmentLook scope absent a) := by
  refine .bind (.volume? fun outcome => ?_)
  have hlook : AttachmentLook scope absent a _ _ := ⟨outcome, rfl, rfl⟩
  cases hr : foundVolume a.volumeId outcome with
  | error f =>
    rw [hr] at hlook
    exact hlook
  | ok found =>
    rw [hr] at hlook
    cases found with
    | none => exact .gone hlook
    | some v => exact .pure _ hlook

end Tells

end Lifecycle

end BlockStorage
