import BlockStorage.Proofs.Lifecycle.Flows
import BlockStorage.Proofs.Operation

/-!
# The restraint of the flows

Whatever the gateway answers, an operation changes at most one thing, and nothing
before its arguments and the resource that it is about have been looked at. What a
wait adds is looks, no more of them than its budget allows.

* `Operation.opening`: what an operation makes sure of before it changes anything.
* `Lifecycle.Restrained`: what an operation refrains from, over what it asked.
* `Lifecycle.perform_restrained`: every operation is restrained.
-/

namespace BlockStorage

/-- Whether a request changes anything at the provider. -/
def Request.changes : Request → Bool
  | createVolume _ _ _ | restoreVolume _ _ _ _ | deleteVolume _ _ | attachVolume _ _ _ _
  | detachVolume _ _ _ _ _ | createSnapshot _ _ _ | deleteSnapshot _ _ => true
  | listScopes | describeVolumes _ _ | describeSnapshots _ _ _ => false

/-! ## Openings -/

/-- A look that comes before a change: what is asked, what the answer has to show, and what may
still be refused then. -/
structure Search where
  request : Request
  Finds : request.Answer → Prop
  later : Except Fault Unit := .ok ()

namespace Search

open Lifecycle (volumeAmong snapshotName)

/-- The search for a volume. -/
def volume (h : Handle) : Search where
  request := .describeVolumes h.scope [h.localId]
  Finds answers := ∃ v, some v ∈ answers ∧ v.volumeId = h.localId

/-- The search for the volume of a snapshot to be made, whose name is only read then. -/
def source (h : Handle) (options : Options) : Search where
  request := .describeVolumes h.scope [h.localId]
  Finds answers := ∃ v, some v ∈ answers ∧ v.volumeId = h.localId
  later := (snapshotName options).map fun _ => ()

/-- The search for a snapshot. -/
def snapshot (h : Handle) : Search where
  request := .describeSnapshots h.scope (some [h.localId]) none
  Finds answers := ∃ s, some s ∈ answers ∧ s.snapshotId = h.localId

/-- The search for an attachment that passes two filters, on the volume that was found first. -/
def attachment (h : Handle) (device instanceId : Option String) : Search where
  request := .describeVolumes h.scope [h.localId]
  Finds answers := ∃ v a, volumeAmong h.localId answers = some v ∧ a ∈ v.attachments ∧
    a.passes device instanceId

/-- How a search may end an operation: what was sought is missing, the look failed, or another
argument is refused. -/
inductive Ends {α : Type} (s : Search) (negative : α) :
    Except Fault s.request.Answer → Except Fault α → Prop
  | gone {f : Fault} (h : f.isNotFound = true) : Ends s negative (.error f) (.ok negative)
  | failed {f : Fault} (h : f.isNotFound = false) : Ends s negative (.error f) (.error f)
  | absent {answer : s.request.Answer} (h : ¬ s.Finds answer) :
      Ends s negative (.ok answer) (.ok negative)
  | refused {answer : s.request.Answer} {f : Fault} (h : s.Finds answer) (hf : s.later = .error f) :
      Ends s negative (.ok answer) (.error f)

end Search

namespace Operation

open Lifecycle (creationArguments attachArguments detachArguments)

/-- What an operation makes sure of before it changes anything: its arguments, and then the
resource that they address. -/
def opening : Operation → Except Fault (Option Search)
  | createVolume _ options => do
    let (_, _, source) ← creationArguments options
    return source.map .snapshot
  | attachVolume volume node options => do
    let _ ← attachArguments volume node options
    return none
  | detachVolume volume options => do
    let (target, v, instanceId) ← detachArguments volume options
    return some (.attachment v target.device instanceId)
  | removeVolume volume => do
    let v ← (Handle.decode volume).mapError .argument
    return some (.volume v)
  | createSnapshot volume options => do
    let v ← (Handle.decode volume).mapError .argument
    return some (.source v options)
  | deleteSnapshot snapshot => do
    let s ← (Handle.decode snapshot).mapError .argument
    return some (.snapshot s)
  | _ => .ok none

end Operation

namespace Lifecycle

variable {γ : Type} {c : Lifecycle γ}

/-- What an operation refrains from, told by what it asked, by what was answered, and by its
result. -/
structure Restrained (c : Lifecycle γ) (op : Operation) (asked : List Request)
    (answered : List Exchange) (result : Except Fault op.Answer) : Prop where
  /-- It asks for one change at most, -/
  oneChange : (asked.filter Request.changes).length ≤ 1
  /-- and for none if it only reads. -/
  reading : op.changing? = none → ∀ r ∈ asked, r.changes = false
  /-- It asks for nothing if an argument is refused, -/
  refused : ∀ f, op.opening = .error f → asked = [] ∧ result = .error f
  /-- and for nothing but a look if that does not find what it addresses, or fails. -/
  looked : ∀ s, op.opening = .ok (some s) → ∃ outcome,
    answered.head? = some ⟨s.request, outcome⟩ ∧
      ∀ r, s.Ends op.negative outcome r → asked = [s.request] ∧ result = r
  /-- It asks no more often than its budget allows, and three times. -/
  bounded : ∀ name, op.changing? = some name →
    asked.length ≤ (c.budgets.budgetFor name).maxAttempts + 3

/-! ## Exchanges that change nothing -/

/-- Exchanges that change nothing. -/
def Quiet (xs : List Exchange) : Prop := ∀ x ∈ xs, x.request.changes = false

/-- At most `n` exchanges, of which one at most changes something. -/
structure Mild (n : Nat) (xs : List Exchange) : Prop where
  oneChange : ((xs.map (·.request)).filter Request.changes).length ≤ 1
  bounded : xs.length ≤ n

section Quiet

variable {x : Exchange} {xs ys : List Exchange} {n : Nat}

theorem Quiet.nil : Quiet [] := fun _ h => absurd h List.not_mem_nil

theorem Quiet.append (h : Quiet xs) (h' : Quiet ys) : Quiet (xs ++ ys) := by
  intro x hx
  rcases List.mem_append.mp hx with hx | hx
  · exact h x hx
  · exact h' x hx

theorem Quiet.singleton (h : x.request.changes = false) : Quiet [x] := by
  intro y hy
  obtain rfl := List.mem_singleton.mp hy
  exact h

theorem Quiet.filter_eq_nil (h : Quiet xs) : (xs.map (·.request)).filter Request.changes = [] := by
  refine List.filter_eq_nil_iff.mpr fun r hr => ?_
  obtain ⟨x, hx, rfl⟩ := List.mem_map.mp hr
  rw [h x hx]
  exact Bool.false_ne_true

theorem Quiet.mild (h : Quiet xs) (hn : xs.length ≤ n) : Mild n xs :=
  ⟨by rw [h.filter_eq_nil]; exact Nat.zero_le 1, hn⟩

/-- One exchange of any kind, and then others that change nothing. -/
theorem Quiet.mild_cons (h : Quiet xs) (hn : xs.length ≤ n) : Mild (n + 1) (x :: xs) := by
  refine ⟨?_, Nat.succ_le_succ hn⟩
  rw [List.map_cons, List.filter_cons, h.filter_eq_nil]
  split
  · exact Nat.le_refl 1
  · exact Nat.zero_le 1

theorem Mild.single : Mild (n + 1) [x] := Quiet.nil.mild_cons (Nat.zero_le n)

/-- A look before all else. -/
theorem Mild.cons (h : Mild n xs) (hx : x.request.changes = false) : Mild (n + 1) (x :: xs) := by
  refine ⟨?_, Nat.succ_le_succ h.bounded⟩
  rw [List.map_cons, List.filter_cons_of_neg (by rw [hx]; exact Bool.false_ne_true)]
  exact h.oneChange

theorem Mild.mono {m : Nat} (h : Mild n xs) (hm : n ≤ m) : Mild m xs :=
  ⟨h.oneChange, Nat.le_trans h.bounded hm⟩

/-- A wait whose fetches are looks changes nothing, and looks no more often than its budget
allows. -/
theorem quiet_of_settles {τ : Type} [Viewed τ] {w : Wait τ}
    {Looks : τ → List Exchange → Except Fault τ → Prop} {first : τ} {r : Except Fault (Option τ)}
    (h : w.Settles Looks first xs r)
    (hlook : ∀ t ys s, Looks t ys s → ∃ y, ys = [y] ∧ y.request.changes = false) :
    Quiet xs ∧ xs.length ≤ w.attempts.toNat := by
  constructor
  · refine h.forall_mem fun t ys s hs => ?_
    obtain ⟨y, rfl, hy⟩ := hlook t ys s hs
    exact Quiet.singleton hy
  · refine h.length_le fun t ys s hs => ?_
    obtain ⟨y, rfl, -⟩ := hlook t ys s hs
    exact Nat.le_refl 1

theorem quiet_of_volumeLooks {w : Wait RemoteVolume} {first : RemoteVolume}
    {r : Except Fault (Option RemoteVolume)} (h : w.Settles VolumeLook first xs r) :
    Quiet xs ∧ xs.length ≤ w.attempts.toNat :=
  quiet_of_settles h fun _ _ _ ⟨_, hys, _⟩ => ⟨_, hys, rfl⟩

theorem quiet_of_snapshotLooks {w : Wait RemoteSnapshot} {first : RemoteSnapshot}
    {r : Except Fault (Option RemoteSnapshot)} (h : w.Settles SnapshotLook first xs r) :
    Quiet xs ∧ xs.length ≤ w.attempts.toNat :=
  quiet_of_settles h fun _ _ _ ⟨_, hys, _⟩ => ⟨_, hys, rfl⟩

theorem quiet_of_attachmentLooks {w : Wait RemoteAttachment} {first : RemoteAttachment}
    {scope : String} {absent : AttachmentStatus} {r : Except Fault (Option RemoteAttachment)}
    (h : w.Settles (AttachmentLook scope absent) first xs r) :
    Quiet xs ∧ xs.length ≤ w.attempts.toNat :=
  quiet_of_settles h fun _ _ _ ⟨_, hys, _⟩ => ⟨_, hys, rfl⟩

end Quiet

/-! ## What follows an opening -/

/-- The refreshes that an operation may make while it waits. -/
def allowance (c : Lifecycle γ) (operation : String) : Nat :=
  (c.budgets.budgetFor operation).maxAttempts

theorem Ordered.mild {order xs : List Exchange} {outcome : Except Fault RemoteVolume}
    {r : Except Fault (Option Volume)} (h : Ordered c order outcome xs r) {x : Exchange}
    (hx : order = [x]) : Mild (c.allowance "create_volume" + 2) xs := by
  subst hx
  cases h with
  | refused => exact .single
  | unsettled hwait =>
    obtain ⟨hquiet, hlength⟩ := quiet_of_volumeLooks hwait
    exact (hquiet.mild_cons hlength).mono (Nat.le_succ _)
  | settled hwait outcome =>
    obtain ⟨hquiet, hlength⟩ := quiet_of_volumeLooks hwait
    refine (hquiet.append (Quiet.singleton rfl)).mild_cons ?_
    rw [List.length_append]
    exact Nat.succ_le_succ hlength

theorem Attaching.mild {device : String} {v n : Handle} {xs : List Exchange}
    {r : Except Fault Bool} (h : Attaching c device v n xs r) :
    Mild (c.allowance "attach_volume" + 1) xs := by
  cases h with
  | refused f => exact .single
  | waited hwait =>
    obtain ⟨hquiet, hlength⟩ := quiet_of_attachmentLooks hwait
    exact hquiet.mild_cons hlength

theorem Detaching.mild {v : Handle} {target : DetachTarget} {found : RemoteAttachment}
    {xs : List Exchange} {r : Except Fault Bool} (h : Detaching c v target found xs r) :
    Mild (c.allowance "detach_volume" + 1) xs := by
  cases h with
  | refused f => exact .single
  | unsettled hwait =>
    obtain ⟨hquiet, hlength⟩ := quiet_of_attachmentLooks hwait
    exact hquiet.mild_cons hlength
  | settled hwait =>
    obtain ⟨hquiet, hlength⟩ := quiet_of_attachmentLooks hwait
    exact hquiet.mild_cons hlength

theorem Removal.mild {v : Handle} {remote : RemoteVolume} {xs : List Exchange}
    {r : Except Fault Bool} (h : Removal c v remote xs r) :
    Mild (c.allowance "remove_volume" + 1) xs := by
  cases h with
  | refused _ => exact .single
  | gone _ => exact .single
  | waited hwait =>
    obtain ⟨hquiet, hlength⟩ := quiet_of_volumeLooks hwait
    exact hquiet.mild_cons hlength

theorem Copying.mild {v : Handle} {options : Options} {source : RemoteVolume}
    {xs : List Exchange} {r : Except Fault (Option Snapshot)}
    (h : Copying c v options source xs r) : Mild (c.allowance "create_snapshot" + 2) xs := by
  cases h with
  | unnamed _ => exact Quiet.nil.mild (Nat.zero_le _)
  | refused _ f => exact .single
  | unsettled _ hwait =>
    obtain ⟨hquiet, hlength⟩ := quiet_of_snapshotLooks hwait
    exact (hquiet.mild_cons hlength).mono (Nat.le_succ _)
  | settled _ hwait outcome =>
    obtain ⟨hquiet, hlength⟩ := quiet_of_snapshotLooks hwait
    refine (hquiet.append (Quiet.singleton rfl)).mild_cons ?_
    rw [List.length_append]
    exact Nat.succ_le_succ hlength

theorem Deletion.mild {s : Handle} {xs : List Exchange} {r : Except Fault Bool}
    (h : Deletion s xs r) : Mild 2 xs := by
  cases h with
  | refused _ => exact .single
  | looked _ outcome => exact (Quiet.singleton rfl).mild_cons (Nat.le_refl 1)

/-! ## Restraint -/

namespace Restrained

variable {op : Operation} {xs : List Exchange} {r : Except Fault op.Answer} {name : String}

/-- A refused operation has asked nothing. -/
theorem of_refused {f : Fault} (h : op.opening = .error f) : c.Restrained op [] [] (.error f) where
  oneChange := Nat.zero_le 1
  reading _ _ h := absurd h List.not_mem_nil
  refused g hg := by
    obtain rfl : f = g := Except.error.inj (h.symm.trans hg)
    exact ⟨rfl, rfl⟩
  looked s hs := by
    rw [h] at hs
    cases hs
  bounded _ _ := Nat.zero_le _

/-- An operation that only reads. -/
theorem of_reading {asked : List Request} {answered : List Exchange} (hop : op.changing? = none)
    (h : ∀ r ∈ asked, r.changes = false) : c.Restrained op asked answered r where
  oneChange := by
    rw [List.filter_eq_nil_iff.mpr fun r hr => by rw [h r hr]; exact Bool.false_ne_true]
    exact Nat.zero_le 1
  reading _ := h
  refused f hf := by cases op <;> first | cases hf | cases hop
  looked s hs := by cases op <;> first | cases hs | cases hop
  bounded name hname := by
    rw [hop] at hname
    cases hname

/-- An operation that looks nothing up before its change. -/
theorem of_unopened (hname : op.changing? = some name) (hopen : op.opening = .ok none)
    (h : Mild (c.allowance name + 3) xs) : c.Restrained op (xs.map (·.request)) xs r where
  oneChange := h.oneChange
  reading hop := by
    rw [hname] at hop
    cases hop
  refused f hf := by
    rw [hopen] at hf
    cases hf
  looked s hs := by
    rw [hopen] at hs
    cases hs
  bounded name' hname' := by
    obtain rfl : name = name' := Option.some.inj (hname.symm.trans hname')
    rw [List.length_map]
    exact h.bounded

/-- An operation that looks something up before its change. -/
theorem of_looked (hname : op.changing? = some name) {s : Search}
    (hopen : op.opening = .ok (some s)) (hs : s.request.changes = false)
    {outcome : Except Fault s.request.Answer} (h : Mild (c.allowance name + 2) xs)
    (hends : ∀ t, s.Ends op.negative outcome t → xs = [] ∧ r = t) :
    c.Restrained op ((⟨s.request, outcome⟩ :: xs : List Exchange).map (·.request))
      (⟨s.request, outcome⟩ :: xs) r where
  oneChange := (h.cons (x := ⟨s.request, outcome⟩) hs).oneChange
  reading hop := by
    rw [hname] at hop
    cases hop
  refused f hf := by
    rw [hopen] at hf
    cases hf
  looked s' hs' := by
    obtain rfl : s = s' := Option.some.inj (Except.ok.inj (hopen.symm.trans hs'))
    refine ⟨outcome, rfl, fun t ht => ?_⟩
    obtain ⟨rfl, rfl⟩ := hends t ht
    exact ⟨rfl, rfl⟩
  bounded name' hname' := by
    obtain rfl : name = name' := Option.some.inj (hname.symm.trans hname')
    rw [List.length_map, List.length_cons]
    exact Nat.succ_le_succ h.bounded

/-- An operation whose look finds what is among the records of the answer. -/
theorem of_opened {ρ : Type} (hname : op.changing? = some name) {s : Search}
    (hopen : op.opening = .ok (some s)) (hs : s.request.changes = false)
    (among : s.request.Answer → Option ρ)
    (hfinds : ∀ answer, s.Finds answer → ∃ a, among answer = some a)
    {Rest : ρ → List Exchange → Except Fault op.Answer → Prop}
    (hrest : ∀ answer a ys t, among answer = some a → Rest a ys t →
      Mild (c.allowance name + 2) ys ∧
        ∀ t', s.Ends op.negative (.ok answer) t' → ys = [] ∧ t = t')
    {outcome : Except Fault s.request.Answer}
    (h : Opened ⟨s.request, outcome⟩ ((orNone outcome).map (·.bind among)) op.negative Rest xs r) :
    c.Restrained op (xs.map (·.request)) xs r := by
  cases outcome with
  | error f =>
    have hends : ∀ {t}, (∀ t', s.Ends op.negative (.error f) t' → t = t') →
        c.Restrained op [s.request] [⟨s.request, .error f⟩] t :=
      fun ht => of_looked hname hopen hs (Quiet.nil.mild (Nat.zero_le _)) fun t' h => ⟨rfl, ht t' h⟩
    by_cases hf : f.isNotFound
    · rw [orNone, if_pos hf] at h
      cases h with
      | missing h =>
        refine hends fun t' ht' => ?_
        cases ht' with
        | gone _ => rfl
        | failed h => exact absurd hf (by rw [h]; exact Bool.false_ne_true)
      | lost h => cases h
      | found h _ => cases h
    · rw [orNone, if_neg hf] at h
      cases h with
      | lost h =>
        obtain rfl := Except.error.inj h
        refine hends fun t' ht' => ?_
        cases ht' with
        | gone h => exact absurd h hf
        | failed _ => rfl
      | missing h => cases h
      | found h _ => cases h
  | ok answer =>
    cases h with
    | lost h => cases h
    | missing h =>
      have hnone : among answer = none := Except.ok.inj h
      have habsent : ¬ s.Finds answer := by
        intro hfound
        obtain ⟨a, ha⟩ := hfinds answer hfound
        rw [hnone] at ha
        cases ha
      refine of_looked hname hopen hs (Quiet.nil.mild (Nat.zero_le _)) fun t' ht' => ⟨rfl, ?_⟩
      cases ht' with
      | absent _ => rfl
      | refused h _ => exact absurd h habsent
    | @found a ys _ h rest =>
      obtain ⟨hmild, hends⟩ := hrest answer a ys _ (Except.ok.inj h) rest
      exact of_looked hname hopen hs hmild hends

end Restrained

/-! ## The changing operations -/

/-- Once a search has found what it sought, only an argument can end it. -/
theorem not_ends_of_finds {α : Type} {s : Search} {negative : α} {answer : s.request.Answer}
    (h : s.Finds answer) (hs : s.later = .ok ()) (t : Except Fault α) :
    ¬ s.Ends negative (.ok answer) t := by
  intro ht
  cases ht with
  | absent habsent => exact habsent h
  | refused _ hf =>
    rw [hs] at hf
    cases hf

theorem volume_finds_iff {v : Handle} {answers : List (Option RemoteVolume)} :
    (Search.volume v).Finds answers ↔ ∃ u, volumeAmong v.localId answers = some u :=
  ⟨fun ⟨_, hu, hid⟩ => volumeAmong_of_mem hu hid, fun ⟨u, hu⟩ => ⟨u, volumeAmong_some hu⟩⟩

theorem snapshot_finds_iff {v : Handle} {answers : List (Option RemoteSnapshot)} :
    (Search.snapshot v).Finds answers ↔ ∃ n, snapshotAmong v.localId answers = some n :=
  ⟨fun ⟨_, hn, hid⟩ => snapshotAmong_of_mem hn hid, fun ⟨n, hn⟩ => ⟨n, snapshotAmong_some hn⟩⟩

/-- An operation whose look only has to find a record. -/
theorem restrained_of_found {ρ : Type} {op : Operation} {name : String}
    (hname : op.changing? = some name) {s : Search} (hopen : op.opening = .ok (some s))
    (hs : s.request.changes = false) (hlater : s.later = .ok ())
    {among : s.request.Answer → Option ρ}
    (hfinds : ∀ {answer}, s.Finds answer ↔ ∃ a, among answer = some a)
    {Rest : ρ → List Exchange → Except Fault op.Answer → Prop}
    (hrest : ∀ a ys t, Rest a ys t → Mild (c.allowance name + 2) ys) {xs : List Exchange}
    {r : Except Fault op.Answer} {outcome : Except Fault s.request.Answer}
    (h : Opened ⟨s.request, outcome⟩ ((orNone outcome).map (·.bind among)) op.negative Rest xs r) :
    c.Restrained op (xs.map (·.request)) xs r := by
  refine .of_opened hname hopen hs among (fun answer => hfinds.mp) ?_ h
  intro answer a ys t ha hys
  have hfound : s.Finds answer := hfinds.mpr ⟨a, ha⟩
  exact ⟨hrest a ys t hys, fun t' ht' => absurd ht' (not_ends_of_finds hfound hlater t')⟩

theorem restrained_createVolume {name : Datum} {options : Options} {xs : List Exchange}
    {r : Except Fault (Option Volume)}
    (h : Admitted (creationArguments options) (fun a => Creation c a.1 a.2.1 a.2.2) xs r) :
    c.Restrained (.createVolume name options) (xs.map (·.request)) xs r := by
  cases h with
  | refused h => exact .of_refused (by rw [Operation.opening, h]; rfl)
  | @admitted d _ _ h rest =>
    obtain ⟨o, scope, source⟩ := d
    have hopen : (Operation.createVolume name options).opening = .ok (source.map .snapshot) := by
      rw [Operation.opening, h]
      rfl
    cases rest with
    | fresh outcome h => exact .of_unopened rfl hopen ((h.mild rfl).mono (Nat.le_succ _))
    | restored h =>
      obtain ⟨look, hopened⟩ := h
      refine restrained_of_found rfl hopen rfl rfl snapshot_finds_iff ?_ hopened
      exact fun _ _ _ ⟨_, h⟩ => h.mild rfl

theorem restrained_attachVolume {volume node : String} {options : Options} {xs : List Exchange}
    {r : Except Fault Bool} (h : Admitted (attachArguments volume node options)
      (fun a => Attaching c a.1 a.2.1 a.2.2) xs r) :
    c.Restrained (.attachVolume volume node options) (xs.map (·.request)) xs r := by
  cases h with
  | refused h => exact .of_refused (by rw [Operation.opening, h]; rfl)
  | admitted h rest =>
    refine .of_unopened rfl (by rw [Operation.opening, h]; rfl) (rest.mild.mono ?_)
    exact Nat.add_le_add_left (by decide) _

theorem restrained_detachVolume {volume : String} {options : Options} {xs : List Exchange}
    {r : Except Fault Bool} (h : Admitted (detachArguments volume options) (fun a =>
      OpenedByVolume a.2.1 false (Detachment c a.2.1 a.1 a.2.2)) xs r) :
    c.Restrained (.detachVolume volume options) (xs.map (·.request)) xs r := by
  cases h with
  | refused h => exact .of_refused (by rw [Operation.opening, h]; rfl)
  | @admitted d _ _ h rest =>
    obtain ⟨target, v, instanceId⟩ := d
    obtain ⟨outcome, hopened⟩ := rest
    have hopen : (Operation.detachVolume volume options).opening =
        .ok (some (.attachment v target.device instanceId)) := by
      rw [Operation.opening, h]
      rfl
    refine .of_opened rfl hopen rfl (volumeAmong v.localId) ?_ ?_ hopened
    · rintro answer ⟨remote, _, hremote, -⟩
      exact ⟨remote, hremote⟩
    · intro answer remote ys t hremote hys
      cases hys with
      | unmatched hnone =>
        refine ⟨Quiet.nil.mild (Nat.zero_le _), fun t' ht' => ⟨rfl, ?_⟩⟩
        cases ht' with
        | absent _ => rfl
        | refused _ hf => cases hf
      | matched hfound hdetaching =>
        have hfinds : (Search.attachment v target.device instanceId).Finds answer :=
          ⟨remote, _, hremote, List.mem_of_find?_eq_some hfound, List.find?_some hfound⟩
        refine ⟨hdetaching.mild.mono (Nat.le_succ _), fun t' ht' => absurd ht' ?_⟩
        exact not_ends_of_finds hfinds rfl t'

theorem restrained_removeVolume {volume : String} {xs : List Exchange} {r : Except Fault Bool}
    (h : Admitted ((Handle.decode volume).mapError .argument)
      (fun v => OpenedByVolume v false (Removal c v)) xs r) :
    c.Restrained (.removeVolume volume) (xs.map (·.request)) xs r := by
  cases h with
  | refused h => exact .of_refused (by rw [Operation.opening, h]; rfl)
  | admitted h rest =>
    obtain ⟨look, hopened⟩ := rest
    refine restrained_of_found rfl (by rw [Operation.opening, h]; rfl) rfl rfl volume_finds_iff ?_
      hopened
    exact fun _ _ _ h => h.mild.mono (Nat.le_succ _)

theorem restrained_createSnapshot {volume : String} {options : Options} {xs : List Exchange}
    {r : Except Fault (Option Snapshot)} (h : Admitted ((Handle.decode volume).mapError .argument)
      (fun v => OpenedByVolume v none (Copying c v options)) xs r) :
    c.Restrained (.createSnapshot volume options) (xs.map (·.request)) xs r := by
  cases h with
  | refused h => exact .of_refused (by rw [Operation.opening, h]; rfl)
  | @admitted v _ _ h rest =>
    obtain ⟨outcome, hopened⟩ := rest
    have hopen : (Operation.createSnapshot volume options).opening =
        .ok (some (.source v options)) := by
      rw [Operation.opening, h]
      rfl
    refine .of_opened rfl hopen rfl (volumeAmong v.localId) ?_ ?_ hopened
    · exact fun answer => volume_finds_iff.mp
    · intro answer source ys t hsource hys
      refine ⟨hys.mild, fun t' ht' => ?_⟩
      have hfinds : (Search.source v options).Finds answer := volume_finds_iff.mpr ⟨source, hsource⟩
      cases hname : snapshotName options with
      | error f =>
        cases hys with
        | unnamed h =>
          obtain rfl := Except.error.inj (hname.symm.trans h)
          cases ht' with
          | absent habsent => exact absurd hfinds habsent
          | refused _ hf =>
            rw [Search.source, hname] at hf
            obtain rfl := Except.error.inj hf
            exact ⟨rfl, rfl⟩
        | refused h _ => cases hname.symm.trans h
        | unsettled h _ => cases hname.symm.trans h
        | settled h _ _ => cases hname.symm.trans h
      | ok name =>
        have hlater : (Search.source v options).later = .ok () := by rw [Search.source, hname]; rfl
        exact absurd ht' (not_ends_of_finds hfinds hlater t')

theorem restrained_deleteSnapshot {snapshot : String} {xs : List Exchange}
    {r : Except Fault Bool} (h : Admitted ((Handle.decode snapshot).mapError .argument)
      (fun s => OpenedBySnapshot s false fun _ => Deletion s) xs r) :
    c.Restrained (.deleteSnapshot snapshot) (xs.map (·.request)) xs r := by
  cases h with
  | refused h => exact .of_refused (by rw [Operation.opening, h]; rfl)
  | admitted h rest =>
    obtain ⟨look, hopened⟩ := rest
    refine restrained_of_found rfl (by rw [Operation.opening, h]; rfl) rfl rfl snapshot_finds_iff ?_
      hopened
    exact fun _ _ _ h => h.mild.mono (Nat.le_add_left _ _)

/-! ## The reading operations -/

/-- A flow that looks and changes nothing. -/
def Reads {α : Type} (c : Lifecycle γ) (flow : Flow γ α) : Prop := c.Tells flow fun xs _ => Quiet xs

namespace Reads

variable {α β : Type}

theorem pure (a : α) : c.Reads (Pure.pure a) := Tells.pure a Quiet.nil

theorem check (e : Except BadArgument α) : c.Reads (Flow.check e) :=
  Tells.check e Quiet.nil

theorem ask {r : Request} (hr : r.changes = false) : c.Reads (c.ask r) :=
  Tells.ask fun _ => Quiet.singleton hr

theorem bind {step : Flow γ α} {next : α → Flow γ β} (h : c.Reads step)
    (hnext : ∀ a, c.Reads (next a)) : c.Reads (step >>= next) := by
  refine Tells.bind (h.mono fun xs r hxs => ?_)
  cases r with
  | error f => exact hxs
  | ok a => exact (hnext a).mono fun ys s hys => hxs.append hys

theorem volume? (scope id : String) : c.Reads (c.volume? scope id) :=
  Tells.volume? fun _ => Quiet.singleton rfl

theorem snapshot? (scope id : String) : c.Reads (c.snapshot? scope id) :=
  Tells.snapshot? fun _ => Quiet.singleton rfl

end Reads

theorem reads_getVolume (c : Lifecycle γ) (volume : String) : c.Reads (c.getVolume volume) := by
  refine .bind (.check _) fun v => .bind (.volume? _ _) fun found => ?_
  cases found with
  | none => exact .pure _
  | some remote => exact .bind (.check _) fun _ => .pure _

theorem reads_getSnapshot (c : Lifecycle γ) (snapshot : String) :
    c.Reads (c.getSnapshot snapshot) := by
  refine .bind (.check _) fun s => .bind (.snapshot? _ _) fun found => ?_
  cases found with
  | none => exact .pure _
  | some remote => exact .bind (.check _) fun _ => .pure _

theorem reads_listVolumesOf (c : Lifecycle γ) (node : String) : c.Reads (c.listVolumesOf node) :=
  .bind (.check _) fun _ => .bind (.ask rfl) fun _ => .bind (.check _) fun _ => .pure _

theorem reads_listSnapshotsOf (c : Lifecycle γ) (volume : String) :
    c.Reads (c.listSnapshotsOf volume) := by
  refine .bind (.check _) fun v => .bind (.volume? _ _) fun found => ?_
  cases found with
  | none => exact .pure _
  | some remote => exact .bind (.ask rfl) fun _ => .bind (.check _) fun _ => .pure _

/-- An event that asks for no change. -/
def AsksNoChange (e : Event) : Prop := ∀ r, e = .asked r → r.changes = false

/-- A call of one location asks for no change, in any run. -/
theorem legIn_asksNoChange {β : Type} {r : Request} (hr : r.changes = false)
    (convert : r.Answer → Except BadArgument β) (location : String) (now : Float) (remote : γ)
    {e : Event} (he : (c.legIn r convert location now remote).Reports e) : AsksNoChange e := by
  rw [legIn] at he
  split at he
  · obtain ⟨trace, a, hruns, he⟩ := he
    obtain ⟨rfl, -⟩ := hruns.of_done
    exact absurd he List.not_mem_nil
  · obtain ⟨trace, outcome, hruns, he⟩ := he.of_map
    obtain ⟨_, hreported, rfl⟩ := hruns.of_after
    obtain ⟨_, hwired, rfl⟩ := hreported.of_reporting
    obtain ⟨wire, -, rfl⟩ := hwired.of_relabel
    rintro r' rfl
    rcases List.mem_cons.mp he with he | he
    · obtain rfl := Event.asked.inj he
      exact hr
    · rcases List.mem_append.mp he with he | he
      · obtain ⟨_, -, he⟩ := List.mem_map.mp he
        cases he
      · obtain he := List.mem_singleton.mp he
        cases he

theorem requests_unchanging {es : List Event} (h : ∀ e ∈ es, AsksNoChange e) :
    ∀ r ∈ Event.requests es, r.changes = false := by
  intro r hr
  obtain ⟨e, he, her⟩ := List.mem_filterMap.mp hr
  cases e with
  | asked r' =>
    obtain rfl := Option.some.inj her
    exact h _ he _ rfl
  | _ => cases her

/-! ## All operations -/

/-- Whatever the world, a flow does what an operation may do, and leaves no stray behind that asks
for a change. -/
def Restrains (c : Lifecycle γ) (op : Operation) (flow : Flow γ op.Answer) : Prop :=
  ∀ w, ∃ own, w.Wrote own (flow.run w).2 ∧
    c.Restrained op (Event.requests own) (Event.exchanges own) (flow.run w).1 ∧
    ∀ r, r.changes = true → (flow.run w).2.Stray (.asked r) → w.Stray (.asked r)

theorem Tells.restrains {op : Operation} {flow : Flow γ op.Answer}
    (h : c.Tells flow fun xs r => c.Restrained op (xs.map (·.request)) xs r) :
    c.Restrains op flow := by
  intro w
  obtain ⟨own, hgrows, xs, hxs, -, hrestrained⟩ := h w
  refine ⟨own, hgrows.wrote, ?_, fun r _ => hgrows.strays _⟩
  rw [← Event.requests_filter, ← Event.exchanges_filter, hxs, Event.requests_flatMap,
    Event.exchanges_flatMap]
  exact hrestrained

theorem Reads.restrains {op : Operation} (hop : op.changing? = none) {flow : Flow γ op.Answer}
    (h : c.Reads flow) : c.Restrains op flow := by
  refine (Tells.mono h fun xs r hxs => .of_reading hop fun r hr => ?_).restrains
  obtain ⟨x, hx, rfl⟩ := List.mem_map.mp hr
  exact hxs x hx

/-- A flow that asks for no change itself, and leaves no stray behind that does. -/
def Unchanging {α : Type} (flow : Flow γ α) : Prop :=
  ∀ w, ∃ own, w.Wrote own (flow.run w).2 ∧ (∀ e ∈ own, AsksNoChange e) ∧
    ∀ r, r.changes = true → (flow.run w).2.Stray (.asked r) → w.Stray (.asked r)

namespace Unchanging

variable {α β : Type}

theorem restrains {op : Operation} (hop : op.changing? = none) {flow : Flow γ op.Answer}
    (h : Unchanging flow) : c.Restrains op flow := by
  intro w
  obtain ⟨own, hwrote, hown, hstrays⟩ := h w
  exact ⟨own, hwrote, .of_reading hop (requests_unchanging hown), hstrays⟩

/-- What is made of an answer afterwards changes nothing. -/
theorem map {flow : Flow γ α} (f : α → β) (h : Unchanging flow) :
    Unchanging (do return f (← flow)) := by
  intro w
  have hstep : ((do return f (← flow) : Flow γ β).run w).2 = (flow.run w).2 := by
    change ((ExceptT.bindCont (fun a => pure (f a)) (flow.run w).1 :
      StateM (World Event γ) _) (flow.run w).2).2 = _
    cases (flow.run w).1 <;> rfl
  rw [hstep]
  exact h w

/-- A flow that looks before. -/
theorem after {step : Flow γ α} {next : α → Flow γ β} (h : c.Reads step)
    (hnext : ∀ a, Unchanging (next a)) : Unchanging (step >>= next) := by
  intro w
  obtain ⟨own, hgrows, xs, hxs, -, hquiet⟩ := h w
  have hown : ∀ e ∈ own, AsksNoChange e := by
    rintro e he r rfl
    have hasked : Event.asked r ∈ own.filter Event.isTalk := List.mem_filter.mpr ⟨he, rfl⟩
    rw [hxs] at hasked
    obtain ⟨x, hx, hr⟩ := List.mem_flatMap.mp hasked
    have hrx : r = x.request := by simpa [Exchange.events] using hr
    rw [hrx]
    exact hquiet x hx
  have hrun : (step >>= next).run w =
      (ExceptT.bindCont next (step.run w).1 : StateM (World Event γ) _) (step.run w).2 := rfl
  rw [hrun]
  generalize step.run w = result at hgrows ⊢
  obtain ⟨r, w₁⟩ := result
  cases r with
  | error f => exact ⟨own, hgrows.wrote, hown, fun r _ => hgrows.strays _⟩
  | ok a =>
    obtain ⟨own', hwrote, hown', hstrays⟩ := hnext a w₁
    refine ⟨own ++ own', hgrows.wrote_append hwrote, fun e he => ?_,
      fun r hr hstray => hgrows.strays _ (hstrays r hr hstray)⟩
    rcases List.mem_append.mp he with he | he
    · exact hown e he
    · exact hown' e he

/-- Listing one location. -/
theorem listIn {pauses : Nat}
    {call : String → Float → γ → Leg Event γ (Except Fault (List α)) pauses} {location : String}
    (hcall : ∀ now remote e, (call location now remote).Reports e → AsksNoChange e) :
    Unchanging (listIn call location) := by
  intro w
  obtain ⟨own, hruns, hgrows⟩ := (call location w.now w.remote).finish_grows w
  exact ⟨own, hgrows.wrote, fun e he => hcall _ _ e (hruns.reports he), fun r _ => hgrows.strays _⟩

/-- Listing all locations side by side. -/
theorem listAll [BEq α] {pauses : Nat}
    {call : String → Float → γ → Leg Event γ (Except Fault (List α)) pauses}
    (hcall : ∀ location now remote e, (call location now remote).Reports e → AsksNoChange e) :
    Unchanging (c.listAll call) := by
  refine .after (.ask rfl) fun scopes => .map _ fun w => ?_
  have hstarts : ∀ start ∈ scopes.map fun s => call s.plain, ∀ now remote e,
      (start now remote).Reports e → AsksNoChange e := by
    intro start hstart
    obtain ⟨s, -, rfl⟩ := List.mem_map.mp hstart
    exact hcall s.plain
  obtain ⟨own, hwrote, hown, hstrays⟩ := World.sideBySide_wrote _ w hstarts
  refine ⟨own, hwrote, hown, fun r hr hstray => ?_⟩
  rcases hstrays _ hstray with hstray | hmine
  · exact hstray
  · exact absurd hr (by rw [hmine r rfl]; exact Bool.false_ne_true)

end Unchanging

/-- **Every operation is restrained.** Whatever the gateway answers and whatever the world, an
operation asks for one change at most, for none before its arguments and the resource that they
address have been looked at, and looks no more often than its budget allows. -/
theorem perform_restrained (c : Lifecycle γ) (op : Operation) (w : World Event γ) :
    ∃ own, w.Wrote own ((c.perform op).run w).2 ∧
      c.Restrained op (Event.requests own) (Event.exchanges own) ((c.perform op).run w).1 ∧
      ∀ r, r.changes = true → ((c.perform op).run w).2.Stray (.asked r) → w.Stray (.asked r) := by
  have hvolumes : ∀ location now remote e, (c.volumesIn location now remote).Reports e →
      AsksNoChange e := fun location now remote e => legIn_asksNoChange rfl _ location now remote
  have hsnapshots : ∀ location now remote e, (c.snapshotsIn location now remote).Reports e →
      AsksNoChange e := fun location now remote e => legIn_asksNoChange rfl _ location now remote
  cases op with
  | createVolume name options =>
    exact ((tells_createVolume c name options).mono fun _ _ h =>
      restrained_createVolume h).restrains w
  | attachVolume volume node options =>
    exact ((tells_attachVolume c volume node options).mono fun _ _ h =>
      restrained_attachVolume h).restrains w
  | detachVolume volume options =>
    exact ((tells_detachVolume c volume options).mono fun _ _ h =>
      restrained_detachVolume h).restrains w
  | removeVolume volume =>
    exact ((tells_removeVolume c volume).mono fun _ _ h => restrained_removeVolume h).restrains w
  | createSnapshot volume options =>
    exact ((tells_createSnapshot c volume options).mono fun _ _ h =>
      restrained_createSnapshot h).restrains w
  | deleteSnapshot snapshot =>
    exact ((tells_deleteSnapshot c snapshot).mono fun _ _ h =>
      restrained_deleteSnapshot h).restrains w
  | getVolume volume => exact (reads_getVolume c volume).restrains rfl w
  | getSnapshot snapshot => exact (reads_getSnapshot c snapshot).restrains rfl w
  | listVolumesOf node => exact (reads_listVolumesOf c node).restrains rfl w
  | listSnapshotsOf volume => exact (reads_listSnapshotsOf c volume).restrains rfl w
  | listVolumesIn location =>
    exact ((Unchanging.listIn (hvolumes location)).map distinct).restrains rfl w
  | listSnapshotsIn location =>
    exact ((Unchanging.listIn (hsnapshots location)).map distinct).restrains rfl w
  | listVolumes => exact (Unchanging.listAll hvolumes).restrains rfl w
  | listSnapshots => exact (Unchanging.listAll hsnapshots).restrains rfl w

end Lifecycle

end BlockStorage
