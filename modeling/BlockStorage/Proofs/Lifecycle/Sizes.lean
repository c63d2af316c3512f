import BlockStorage.Proofs.Check
import BlockStorage.Proofs.Double.Value
import BlockStorage.Proofs.Gateway.Attempt
import BlockStorage.Proofs.Lifecycle.Talk

/-!
# The sizes that are ordered

A size in gigabytes is any number that is more than zero. It goes through the flow as
it is, to one of two requests of the gateway; each cuts it off to whole gigabytes
before it sends it. So what is ordered is the floor of what was asked for: no less only
where that is whole, and nothing at all below one.

* `Ec2.sent_of_runs`: what a call sends is what its plan says.
* `Ec2.sized_of_order`, `Ec2.sized_of_restoration`: the sizes in it.
* `Lifecycle.Sends`: what a flow puts on the wire, with a rule for each kind of step.
* `Lifecycle.sends_createVolume`: what the making of a volume does.
* `Lifecycle.orders_floor`: the size that is ordered.
-/

namespace BlockStorage

/-! ## What a call sends -/

/-- What holds of all that attempts do holds of all that a course does. -/
theorem RetryPolicy.Course.forall_mem {σ α : Type} {p : RetryPolicy} {P : σ → Prop}
    {Attempts : List σ → Except Fault α → Prop} {left : Nat} {es : List σ}
    {outcome : Except Fault α} (h : p.Course Attempts left es outcome)
    (hP : ∀ es r, Attempts es r → ∀ e ∈ es, P e) : ∀ e ∈ es, P e := by
  induction h with
  | last h _ => exact hP _ _ h
  | exhausted h _ => exact hP _ _ h
  | overdue h _ _ => exact hP _ _ h
  | again h _ _ ih =>
    intro e he
    rcases List.mem_append.mp he with he | he
    · exact hP _ _ h e he
    · exact ih e he

namespace Ec2

variable {χ : Type} {settings : Ec2Settings} {client : Client χ} {r : Request}
  {region operation : String} {arguments : Fields} {reply : Reply}

/-- What an attempt sends is what the plan says. -/
theorem sent_of_guarded {α : Type} {p : Plan α} {es : List WireEvent}
    {r : Except Fault (Except Fault α)}
    (h : RetryPolicy.Guarded WireEvent.isSent (Makes WireEvent.isSent p) es r)
    (hmem : .sent region operation arguments reply ∈ es) :
    region = p.region ∧ operation = p.operation ∧ p.arguments = .ok arguments := by
  cases h with
  | rejected => exact absurd hmem List.not_mem_nil
  | made h =>
    cases h with
    | unsent => exact absurd hmem List.not_mem_nil
    | sent hargs _ =>
      obtain ⟨rfl, rfl, rfl, rfl⟩ := WireEvent.sent.inj (List.mem_singleton.mp hmem)
      exact ⟨rfl, rfl, hargs⟩

/-- **What a call sends is what its plan says.** -/
theorem sent_of_runs {now : Float} {wire : Wire χ} {trace : List WireEvent}
    {answer : Except Fault r.Answer}
    (h : ((gateway settings client).call r now wire).Runs trace answer)
    (hsent : .sent region operation arguments reply ∈ trace) :
    ∃ p, plan settings r = .ok p ∧ region = p.region ∧ operation = p.operation ∧
      p.arguments = .ok arguments := by
  by_cases hasks : r = .listScopes → settings.regions = []
  · have haside : ∀ e, WireEvent.isAside e = true → WireEvent.isSent e = false :=
      fun _ => WireEvent.isSent_of_isAside
    rcases course_of_request haside hasks h with
      ⟨_, -, rfl, -⟩ | ⟨p, es, fs, outcome, hp, htrace, hcourse, hconcludes⟩
    · exact absurd hsent List.not_mem_nil
    · have hmem : .sent region operation arguments reply ∈ es := by
        rw [isSent_of_concludes hconcludes, List.append_nil] at htrace
        exact htrace ▸ List.mem_filter.mpr ⟨hsent, rfl⟩
      refine ⟨p, hp, hcourse.forall_mem (P := fun e => e = .sent region operation arguments reply →
        _) (fun es r hes e he heq => ?_) _ hmem rfl⟩
      exact sent_of_guarded hes (heq ▸ he)
  -- regions that are configured are not asked for
  · obtain ⟨rfl, hregions⟩ := Classical.not_imp.mp hasks
    have honce : (gateway settings client).call .listScopes now wire =
        atOnce wire (.ok (settings.regions.map .text)) := if_neg (by simpa using hregions)
    rw [honce] at h
    obtain ⟨rfl, -⟩ := h.of_done
    exact absurd hsent List.not_mem_nil

/-! ## The sizes in it -/

/-- What orders a volume orders it by this size. -/
def Sized (n : Int) (e : WireEvent) : Prop :=
  ∀ region arguments reply, e = .sent region "create_volume" arguments reply →
    arguments.get? "Size" = some (.int n)

variable {n : Int} {x : Float}

theorem asWhole_real (h : Decimal.Real.truncate? x = some n) : (Datum.real x).asWhole = .ok n := by
  rw [Datum.asWhole, Amount.truncated, h]

/-- A request whose plan is no order, or an order by this size, sends no other. -/
theorem sized_of_plan {now : Float} {wire : Wire χ} {trace : List WireEvent}
    {answer : Except Fault r.Answer}
    (h : ((gateway settings client).call r now wire).Runs trace answer)
    (hplan : ∀ p, plan settings r = .ok p → p.operation = "create_volume" →
      ∀ arguments, p.arguments = .ok arguments → arguments.get? "Size" = some (.int n)) :
    ∀ e ∈ trace, Sized n e := by
  rintro e he region arguments reply rfl
  obtain ⟨p, hp, -, hoperation, hargs⟩ := sent_of_runs h he
  exact hplan p hp hoperation.symm arguments hargs

/-- Whether a request orders a volume. -/
def isOrder : Request → Bool
  | .createVolume _ _ _ | .restoreVolume _ _ _ _ => true
  | _ => false

/-- What is no order is not sent as one. -/
theorem sized_of_other (hr : isOrder r = false) {now : Float} {wire : Wire χ}
    {trace : List WireEvent} {answer : Except Fault r.Answer}
    (h : ((gateway settings client).call r now wire).Runs trace answer) :
    ∀ e ∈ trace, Sized n e := by
  refine sized_of_plan h fun p hp hoperation => ?_
  have hother : p.operation ≠ "create_volume" := by
    cases r with
    | createVolume => cases hr
    | restoreVolume => cases hr
    | _ =>
      rw [← Except.ok.inj hp]
      simp
  exact absurd hoperation hother

/-- An empty volume is ordered by its size, cut off. -/
theorem sized_of_order {scope zone : String} (hx : Decimal.Real.truncate? x = some n) {now : Float}
    {wire : Wire χ} {trace : List WireEvent} {answer : Except Fault RemoteVolume}
    (h : ((gateway settings client).call (.createVolume scope (.real x) zone) now wire).Runs trace
      answer) :
    ∀ e ∈ trace, Sized n e := by
  refine sized_of_plan h fun p hp _ arguments hargs => ?_
  rw [plan] at hp
  rw [← Except.ok.inj hp] at hargs
  change createArguments zone (.real x) = .ok arguments at hargs
  rw [createArguments, asWhole_real hx] at hargs
  rw [← Except.ok.inj hargs]
  rfl

/-- So is a volume from a snapshot; its size is not zero, so it is not left out. -/
theorem sized_of_restoration {scope snapshotId zone : String} (hpos : 0.0 < x)
    (hx : Decimal.Real.truncate? x = some n) {now : Float} {wire : Wire χ} {trace : List WireEvent}
    {answer : Except Fault RemoteVolume}
    (h : ((gateway settings client).call (.restoreVolume scope snapshotId zone (.real x)) now
      wire).Runs trace answer) :
    ∀ e ∈ trace, Sized n e := by
  have htruthy : (Datum.real x).isTruthy = true := Double.bne_zero_of_pos hpos
  refine sized_of_plan h fun p hp _ arguments hargs => ?_
  rw [plan, restoreArguments, htruthy, if_pos rfl, asWhole_real hx] at hp
  rw [← Except.ok.inj hp] at hargs
  rw [← Except.ok.inj hargs]
  rfl

end Ec2

/-! ## What a flow puts on the wire -/

/-- Whether an event is on the wire. -/
def Event.isWire : Event → Bool
  | wire _ => true
  | _ => false

namespace Lifecycle

variable {γ α β : Type} {c : Lifecycle γ} {P : WireEvent → Prop}

/-- Whatever the world, all that a flow puts on the wire is as `P` says. -/
def Sends (P : WireEvent → Prop) (flow : Flow γ α) : Prop :=
  Does Event.isWire flow.run fun es _ => ∀ e, .wire e ∈ es → P e

/-- Whatever the gateway does at a request, all that it puts on the wire is as `P` says. -/
def CallSends (c : Lifecycle γ) (P : WireEvent → Prop) (r : Request) : Prop :=
  ∀ now remote trace outcome, (c.gateway.call r now remote).Runs trace outcome → ∀ e ∈ trace, P e

namespace Sends

theorem pure (a : α) : Sends P (Pure.pure a : Flow γ α) :=
  Does.run_pure a fun _ he => absurd he List.not_mem_nil

theorem throw (f : Fault) : Sends P (MonadExcept.throw f : Flow γ α) :=
  Does.run_throw f fun _ he => absurd he List.not_mem_nil

theorem bind {step : Flow γ α} {next : α → Flow γ β} (h : Sends P step)
    (hnext : ∀ a, Sends P (next a)) : Sends P (step >>= next) := by
  refine Does.run_bind (Does.mono h fun es r hes => ?_)
  cases r with
  | error f => exact hes
  | ok a =>
    refine (hnext a).mono fun fs _ hfs e he => ?_
    rcases List.mem_append.mp he with he | he
    · exact hes e he
    · exact hfs e he

theorem outcome {step : Flow γ α} (h : Sends P step) : Sends P (Run.outcome step) :=
  Does.run_outcome h

theorem check (e : Except BadArgument α) : Sends P (Flow.check e : Flow γ α) := by
  cases e with
  | ok a => exact .pure a
  | error why => exact .throw _

theorem note (e : Event) (he : e.isWire = false) : Sends P (Flow.note e : Flow γ Unit) := by
  refine Does.run_note e ?_
  rw [List.filter_cons_of_neg (by rw [he]; exact Bool.false_ne_true)]
  exact fun _ he => absurd he List.not_mem_nil

theorem count (operation : String) (outcome : Outcome) : Sends P (c.count operation outcome) :=
  .note _ rfl

theorem log (level : Level) (message : String) (event : LogEvent) (fields : Fields) :
    Sends P (Flow.log level message event fields : Flow γ Unit) := .note _ rfl

theorem missing (operation resource : String) : Sends P (c.missing operation resource) :=
  .bind (.count _ _) fun _ => .log _ _ _ _

theorem ask {r : Request} (h : c.CallSends P r) : Sends P (c.ask r) := by
  refine Does.finish (c.leg r) fun now remote trace outcome hruns e he => ?_
  obtain ⟨_, hreported, rfl⟩ := hruns.of_after
  obtain ⟨_, hwired, rfl⟩ := hreported.of_reporting
  obtain ⟨wire, hcall, rfl⟩ := hwired.of_relabel
  rcases List.mem_cons.mp (List.mem_of_mem_filter he) with he | he
  · cases he
  · rcases List.mem_append.mp he with he | he
    · obtain ⟨e', he, heq⟩ := List.mem_map.mp he
      rw [← Event.wire.inj heq]
      exact h now remote wire outcome hcall e' he
    · cases List.mem_singleton.mp he

theorem orGone {step : Flow γ α} (h : Sends P step) : Sends P (Flow.orGone step) := by
  refine .bind (.outcome h) fun r => ?_
  cases r with
  | ok a => exact .pure _
  | error f =>
    dsimp only
    split
    · exact .pure _
    · exact .throw _

theorem tracked {operation : String} {flow : Flow γ α} (h : Sends P flow) :
    Sends P (c.tracked operation flow) := by
  refine .bind (.outcome h) fun r => ?_
  cases r with
  | ok a => exact .pure _
  | error f =>
    dsimp only
    split
    · exact .bind (.count _ _) fun _ => .throw _
    · exact .bind (.count _ _) fun _ => .throw _
    · exact .throw _
    · exact .bind (.count _ _) fun _ => .bind (.log _ _ _ _) fun _ => .throw _

theorem volume? {scope id : String} (h : c.CallSends P (.describeVolumes scope [id])) :
    Sends P (c.volume? scope id) := by
  refine .bind (.orGone (.ask h)) fun answers => ?_
  cases answers <;> exact .pure _

theorem snapshot? {scope id : String}
    (h : c.CallSends P (.describeSnapshots scope (some [id]) none)) :
    Sends P (c.snapshot? scope id) := by
  refine .bind (.orGone (.ask h)) fun answers => ?_
  cases answers <;> exact .pure _

theorem gone (scope id : String) : Sends P (Lifecycle.gone scope id : Flow γ α) :=
  .bind (.check _) fun _ => .throw _

theorem refreshVolume (h : ∀ scope ids, c.CallSends P (.describeVolumes scope ids))
    (v : RemoteVolume) : Sends P (c.refreshVolume v) := by
  refine .bind (.volume? (h _ _)) fun found => ?_
  cases found with
  | none => exact .gone _ _
  | some v' => exact .pure _

theorem waitFor {τ : Type} [Viewed τ] {operation condition : String} {ready failed : τ → Bool}
    {goneIsReady : Bool} {refresh : τ → Flow γ τ} (h : ∀ t, Sends P (refresh t)) (first : τ) :
    Sends P (c.waitFor operation condition ready failed goneIsReady refresh first) := by
  have hkeep : ∀ e, Event.isWire (.wait e) = false := fun _ => rfl
  refine Does.mono ((c.waitOf operation condition ready failed goneIsReady).does_run hkeep h first)
    fun es r hr e he => ?_
  exact hr.forall_mem (P := fun e => ∀ x, e = .wire x → P x)
    (fun _ _ _ hes e he x hx => hes x (hx ▸ he)) _ he e rfl

end Sends

section Creation

variable (hvolumes : ∀ scope ids, c.CallSends P (.describeVolumes scope ids))

include hvolumes

theorem sends_settleVolume (name : Datum) (o : ZonedVolumeOptions) (created : RemoteVolume) :
    Sends P (c.settleVolume name o created) := by
  refine .bind (.waitFor (fun v => .refreshVolume hvolumes v) created) fun _ => ?_
  refine .bind (.volume? (hvolumes _ _)) fun found => ?_
  cases found with
  | none => exact .bind (.check _) fun _ => .bind (.missing _ _) fun _ => .pure _
  | some final =>
    exact .bind (.check _) fun _ => .bind (.count _ _) fun _ => .bind (.log _ _ _ _) fun _ =>
      .pure _

/-- **The making of a volume sends what its looks and its one order send.** -/
theorem sends_createVolume {o : ZonedVolumeOptions}
    (hsnapshots : ∀ scope ids volume, c.CallSends P (.describeSnapshots scope ids volume))
    (horder : ∀ scope, c.CallSends P (.createVolume scope (.real (o.sizeGb.getD 0.0)) o.zone))
    (hrestore : ∀ scope id, c.CallSends P (.restoreVolume scope id o.zone (.ofReal? o.sizeGb)))
    (name : Datum) : Sends P (c.perform (.createVolume name (.zonedVolume o))) := by
  refine .bind (.check _) fun place => .tracked (.bind ?_ fun created => ?_)
  · cases place.2 with
    | none => exact .bind (.ask (horder _)) fun _ => .pure _
    | some source =>
      refine .bind (.snapshot? (hsnapshots _ _ _)) fun found => ?_
      cases found with
      | none => exact .pure _
      | some _ => exact .bind (.ask (hrestore _ _)) fun _ => .pure _
  · cases created with
    | none => exact .bind (.missing _ _) fun _ => .pure _
    | some created => exact sends_settleVolume hvolumes name o created

end Creation

/-! ## The size that is ordered -/

/-- A volume of `n` gigabytes is at least one large, and no smaller than was asked for. -/
structure Suffices (n : ℤ) (size : ℚ) : Prop where
  one_le : 1 ≤ n
  size_le : size ≤ n

/-- What is cut off is as much as was asked for only if nothing was cut off. -/
theorem suffices_floor_iff {size : ℚ} (hpos : 0 < size) :
    Suffices ⌊size⌋ size ↔ ∃ k : ℤ, size = k := by
  constructor
  · intro h
    exact ⟨⌊size⌋, le_antisymm h.size_le (Int.floor_le size)⟩
  · rintro ⟨k, rfl⟩
    rw [Int.floor_intCast]
    exact ⟨by exact_mod_cast hpos, le_refl _⟩

variable {χ : Type} {settings : Ec2Settings} {client : Client χ} {c : Lifecycle (Wire χ)}

theorem sends_sized (hc : c.gateway = Ec2.gateway settings client) {o : ZonedVolumeOptions}
    {size : Float} {n : ℤ} (hsize : o.sizeGb = some size) (hpos : 0.0 < size)
    (hn : Decimal.Real.truncate? size = some n) (name : Datum) :
    Sends (Ec2.Sized n) (c.perform (.createVolume name (.zonedVolume o))) := by
  -- What the flow asks besides its order are looks, and no look is sent as an order.
  have hother : ∀ r, Ec2.isOrder r = false → c.CallSends (Ec2.Sized n) r := by
    intro r hr now remote trace outcome hruns
    rw [hc] at hruns
    exact Ec2.sized_of_other hr hruns
  refine sends_createVolume (fun _ _ => hother _ rfl) (fun _ _ _ => hother _ rfl)
    (fun scope now remote trace outcome hruns => ?_)
    (fun scope id now remote trace outcome hruns => ?_) name
  · rw [hc, hsize] at hruns
    exact Ec2.sized_of_order hn hruns
  · rw [hc, hsize] at hruns
    exact Ec2.sized_of_restoration hpos hn hruns

/-- **What is ordered is the floor of the size that was asked for**, with or without a snapshot and
in every attempt: it suffices exactly if that size is whole, and then it is that size. -/
theorem orders_floor (hc : c.gateway = Ec2.gateway settings client) {d : Datum}
    {o : ZonedVolumeOptions} (hvalid : ZonedVolumeOptions.check d = .good o) {size : Float}
    (hsize : o.sizeGb = some size) (hfinite : size.isFinite = true) (name : Datum)
    (w : World Event (Wire χ)) :
    ∃ own, w.Wrote own ((c.perform (.createVolume name (.zonedVolume o))).run w).2 ∧
      (∀ region arguments reply, .wire (.sent region "create_volume" arguments reply) ∈ own →
        arguments.get? "Size" = some (.int ⌊Double.value size⌋)) ∧
      (Suffices ⌊Double.value size⌋ (Double.value size) ↔ ∃ k : ℤ, Double.value size = k) ∧
      ∀ k : ℤ, Double.value size = k → ⌊Double.value size⌋ = k := by
  have hpos := ZonedVolumeOptions.check_positive hvalid hsize
  have hfloor := Double.truncate?_eq_floor hfinite hpos
  obtain ⟨own, hgrows, hown⟩ := sends_sized hc hsize hpos hfloor name w
  refine ⟨own, hgrows.wrote, fun region arguments reply hsent => ?_,
    suffices_floor_iff (Double.value_pos hpos), fun k hk => ?_⟩
  · exact hown _ (List.mem_filter.mpr ⟨hsent, rfl⟩) region arguments reply rfl
  · rw [hk, Int.floor_intCast]

/-! ### A whole size and a fraction -/

/-- Options with this size, as they are handed over. -/
def sizedOptions (size : Float) : Datum :=
  .record [("size_gb", .real size), ("availability_zone", .text "us-east-1a")]

/-- A provider that makes no volumes. -/
def refusing : Client Unit where
  send _ _ _ _ := (.fault (.rejected ⟨some "VolumeLimitExceeded", none, "CreateVolume", none⟩), ())

def refusingFlows : Lifecycle (Wire Unit) where
  gateway := Ec2.gateway {} refusing

def untouched : World Event (Wire Unit) := { remote := { client := () } }

/-- The world after a volume with this size was refused. -/
def refused (size : Float) : World Event (Wire Unit) :=
  ((refusingFlows.perform (.createVolume .null (.zonedVolume
    { sizeGb := some size, zone := "us-east-1a" }))).run untouched).2

/-- The sizes that volumes were ordered by. -/
def sizesOrdered (es : List Event) : List (Option Datum) :=
  es.filterMap fun
    | .wire (.sent _ call arguments _) =>
      if call = "create_volume" then some (arguments.get? "Size") else none
    | _ => none

theorem Suffices.count_le {n : ℤ} {x : Float} (h : Suffices n (Double.value x)) :
    Double.count x ≤ n * (2 ^ Double.level 0 : Nat) := by
  have hpow : (0 : ℚ) < (2 ^ Double.level 0 : Nat) := by exact_mod_cast Nat.two_pow_pos _
  have hle := (div_le_iff₀ hpow).mp h.size_le
  exact_mod_cast hle

/-- A volume of two gigabytes is ordered as one of two. -/
theorem whole_size_ordered : ∃ own, untouched.Wrote own (refused 2.0) ∧
    sizesOrdered own = [some (.int 2)] ∧
    (∀ region arguments reply, .wire (.sent region "create_volume" arguments reply) ∈ own →
      arguments.get? "Size" = some (.int 2)) ∧
    Suffices 2 (Double.value 2.0) := by
  have hc : refusingFlows.gateway = Ec2.gateway {} refusing := rfl
  have hvalid : ZonedVolumeOptions.check (sizedOptions 2.0) =
      .good { sizeGb := some 2.0, zone := "us-east-1a" } := rfl
  have hwhole : Double.value 2.0 = (2 : ℤ) := by
    have hcount : Double.count 2.0 = 2 * (2 ^ Double.level 0 : Nat) := by decide +kernel
    have hpow : ((2 ^ Double.level 0 : Nat) : ℚ) ≠ 0 := by
      exact_mod_cast (Nat.two_pow_pos _).ne'
    rw [Double.value, hcount, Int.cast_mul, Int.cast_natCast, mul_div_cancel_right₀ _ hpow]
  obtain ⟨own, hwrote, hsizes, hsuffices, hsame⟩ :=
    orders_floor hc hvalid rfl (by decide) .null untouched
  have horder : sizesOrdered (refused 2.0).journal = [some (.int 2)] := rfl
  rw [show (refused 2.0).journal = own from hwrote.journal_eq rfl] at horder
  rw [hsame 2 hwhole] at hsizes hsuffices
  exact ⟨own, hwrote, horder, hsizes, hsuffices.mpr ⟨2, hwhole⟩⟩

/-- A fraction is ordered short: a volume of one and a half gigabytes as one of one, and a volume of
half a gigabyte as one of none. -/
theorem fraction_ordered_short :
    (ZonedVolumeOptions.check (sizedOptions 1.5) =
        .good { sizeGb := some 1.5, zone := "us-east-1a" } ∧
      sizesOrdered (refused 1.5).journal = [some (.int 1)] ∧ ¬ Suffices 1 (Double.value 1.5)) ∧
    ZonedVolumeOptions.check (sizedOptions 0.5) =
        .good { sizeGb := some 0.5, zone := "us-east-1a" } ∧
      sizesOrdered (refused 0.5).journal = [some (.int 0)] ∧ ¬ Suffices 0 (Double.value 0.5) := by
  refine ⟨⟨rfl, rfl, fun h => ?_⟩, rfl, rfl, fun h => absurd h.one_le (by decide)⟩
  exact absurd h.count_le (by decide +kernel)

end Lifecycle

end BlockStorage
