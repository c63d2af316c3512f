import BlockStorage.Proofs.Handle
import BlockStorage.Proofs.Operation
import BlockStorage.Proofs.Table
import BlockStorage.Store

/-!
# What an operation can do to a store

Fourteen operations with many ways out come down to nine changes. An operation that
fails, answers no, or only reads keeps the store; a creation that fails at its last
argument has used a number up.

* `Store.Change`: the changes.
* `Store.Effect`: the changes, each with the operation that makes it and its answer.
* `Store.perform_effect`, `Store.perform_change`: every operation makes one of them.
* `Store.run`: the store after operations one after the other.
* `Store.run_induct`, `Store.run_effect_induct`: what every change keeps is kept by a run.
-/

namespace BlockStorage

namespace Store

/-! ## Changes -/

/-- The node that holds a volume. -/
def holder (s : Store) (volume : String) : Option String :=
  (s.attachments.get? volume).map (·.node)

theorem unlink_eq (s : Store) (volume : String) :
    s.unlink volume =
      { s with
        attachments := s.attachments.erase volume
        nodeVolumes := discardAt s.nodeVolumes (s.holder volume) volume } := by
  rw [unlink, holder]
  split
  · next hnone =>
    rw [hnone, Table.erase_eq_self hnone]
    rfl
  · next a ha =>
    rw [ha]
    rfl

/-- What one operation does to a store. -/
inductive Change (s : Store) : Store → Prop
  | kept : Change s s
  | volumeNumbered : Change s { s with nextVolume := s.nextVolume + 1 }
  | volumeCreated (v : Volume) (location : String)
      (hid : Handle.encode location (s.settings.volumePrefix ++ toString s.nextVolume) = .ok v.id)
      (hlocation : v.location = some location) (hdevice : v.device = none) :
      Change s ({ s with nextVolume := s.nextVolume + 1 }.insertVolume v location)
  | attached (v : Volume) (volume : String) (a : Attachment)
      (hv : s.volumes.get? volume = some v) (hfree : s.attachments.get? volume = none) :
      Change s (s.link v volume a)
  | detached (v : Volume) (volume : String) (hv : s.volumes.get? volume = some v) :
      Change s
        { s with
          volumes := s.volumes.put volume { v with device := none }
          attachments := s.attachments.erase volume
          nodeVolumes := discardAt s.nodeVolumes (s.holder volume) volume }
  | volumeRemoved (v : Volume) (volume : String) (hv : s.volumes.get? volume = some v) :
      Change s
        { s with
          volumes := s.volumes.erase volume
          attachments := s.attachments.erase volume
          nodeVolumes := discardAt s.nodeVolumes (s.holder volume) volume
          locationVolumes := discardAt s.locationVolumes v.location volume
          volumeSnapshots := s.volumeSnapshots.erase volume }
  | snapshotNumbered : Change s { s with nextSnapshot := s.nextSnapshot + 1 }
  | snapshotCreated (v : Volume) (volume : String) (handle : Handle) (n : Snapshot)
      (hhandle : Handle.decode volume = .ok handle) (hv : s.volumes.get? volume = some v)
      (hid : Handle.encode (snapshotLocation v handle)
        (s.settings.snapshotPrefix ++ toString s.nextSnapshot) = .ok n.id)
      (hlocation : n.location = some (snapshotLocation v handle))
      (hvolume : n.volumeId = some volume) :
      Change s ({ s with nextSnapshot := s.nextSnapshot + 1 }.insertSnapshot n
        (snapshotLocation v handle) volume)
  | snapshotDeleted (n : Snapshot) (snapshot : String)
      (hn : s.snapshots.get? snapshot = some n) :
      Change s
        { s with
          snapshots := s.snapshots.erase snapshot
          locationSnapshots := discardAt s.locationSnapshots n.location snapshot
          volumeSnapshots := discardAt s.volumeSnapshots n.volumeId snapshot }

/-! ## Operations -/

/-- What one operation answers and does to a store. -/
inductive Effect (s : Store) (now : Except Fault Timestamp) :
    (op : Operation) → Except Fault op.Answer → Store → Prop
  | kept {op : Operation} {r : Except Fault op.Answer} (h : ∀ a, r = .ok a → op.affirms a = false) :
      Effect s now op r s
  /-- The node holds the volume already. -/
  | held {volume node : String} {options : Options} (hnode : s.holder volume = some node) :
      Effect s now (.attachVolume volume node options) (.ok true) s
  | volumeNumbered {name : Datum} {options : Options} {f : Fault}
      (hname : ((Check.nullable Check.text name).under "name").orFault = .error f) :
      Effect s now (.createVolume name options) (.error f)
        { s with nextVolume := s.nextVolume + 1 }
  | volumeCreated {name : Datum} {options : Options} {o : Order} {v : Volume}
      (horder : order options = .ok o) (hsize : s.sizeOf? o = some v.sizeGb)
      (hid : Handle.encode o.location (s.settings.volumePrefix ++ toString s.nextVolume) = .ok v.id)
      (hlocation : v.location = some o.location) (hdevice : v.device = none) :
      Effect s now (.createVolume name options) (.ok (some v))
        ({ s with nextVolume := s.nextVolume + 1 }.insertVolume v o.location)
  | attached {volume node device : String} {options : Options} {v : Volume} {ends : Handle × Handle}
      (hscope : Handle.sameScope volume node = .ok ends)
      (hv : s.volumes.get? volume = some v) (hfree : s.attachments.get? volume = none) :
      Effect s now (.attachVolume volume node options) (.ok true) (s.link v volume ⟨node, device⟩)
  | detached {volume : String} {options : Options} {v : Volume}
      (hv : s.volumes.get? volume = some v) :
      Effect s now (.detachVolume volume options) (.ok true)
        { s with
          volumes := s.volumes.put volume { v with device := none }
          attachments := s.attachments.erase volume
          nodeVolumes := discardAt s.nodeVolumes (s.holder volume) volume }
  | volumeRemoved {volume : String} {v : Volume} (hv : s.volumes.get? volume = some v) :
      Effect s now (.removeVolume volume) (.ok true)
        { s with
          volumes := s.volumes.erase volume
          attachments := s.attachments.erase volume
          nodeVolumes := discardAt s.nodeVolumes (s.holder volume) volume
          locationVolumes := discardAt s.locationVolumes v.location volume
          volumeSnapshots := s.volumeSnapshots.erase volume }
  | snapshotNumbered {volume : String} {options : Options} {f : Fault}
      (h : options.isGiven = true ∧ options.name? = .error f ∨ now = .error f) :
      Effect s now (.createSnapshot volume options) (.error f)
        { s with nextSnapshot := s.nextSnapshot + 1 }
  | snapshotCreated {volume : String} {options : Options} {v : Volume} {handle : Handle}
      {n : Snapshot} (hhandle : Handle.decode volume = .ok handle)
      (hv : s.volumes.get? volume = some v) (hsize : n.sizeGb = v.sizeGb)
      (hid : Handle.encode (snapshotLocation v handle)
        (s.settings.snapshotPrefix ++ toString s.nextSnapshot) = .ok n.id)
      (hlocation : n.location = some (snapshotLocation v handle))
      (hvolume : n.volumeId = some volume) :
      Effect s now (.createSnapshot volume options) (.ok (some n))
        ({ s with nextSnapshot := s.nextSnapshot + 1 }.insertSnapshot n
          (snapshotLocation v handle) volume)
  | snapshotDeleted {snapshot : String} {n : Snapshot}
      (hn : s.snapshots.get? snapshot = some n) :
      Effect s now (.deleteSnapshot snapshot) (.ok true)
        { s with
          snapshots := s.snapshots.erase snapshot
          locationSnapshots := discardAt s.locationSnapshots n.location snapshot
          volumeSnapshots := discardAt s.volumeSnapshots n.volumeId snapshot }

section

variable {s t : Store} {now : Except Fault Timestamp} {op : Operation} {r : Except Fault op.Answer}

theorem Effect.failed (f : Fault) : s.Effect now op (.error f) s := .kept fun _ h => by cases h

theorem Effect.declined {a : op.Answer} (ha : op.affirms a = false) : s.Effect now op (.ok a) s :=
  .kept fun _ h => by rwa [← Except.ok.inj h]

/-- The change of an effect. -/
theorem Effect.change (h : s.Effect now op r t) : s.Change t := by
  cases h with
  | kept | held => exact .kept
  | volumeNumbered => exact .volumeNumbered
  | volumeCreated _ _ hid hlocation hdevice => exact .volumeCreated _ _ hid hlocation hdevice
  | attached _ hv hfree => exact .attached _ _ _ hv hfree
  | detached hv => exact .detached _ _ hv
  | volumeRemoved hv => exact .volumeRemoved _ _ hv
  | snapshotNumbered => exact .snapshotNumbered
  | snapshotCreated hhandle hv _ hid hlocation hvolume =>
    exact .snapshotCreated _ _ _ _ hhandle hv hid hlocation hvolume
  | snapshotDeleted hn => exact .snapshotDeleted _ _ hn

end

variable (s : Store) (now : Except Fault Timestamp)

theorem createVolume_effect (name : Datum) (options : Options) :
    s.Effect now (.createVolume name options) (s.createVolume name options).answer
      (s.createVolume name options).store := by
  rw [createVolume]
  split
  · exact .failed _
  · next o horder =>
    split
    · exact .declined rfl
    · next sizeGb hsize =>
      split
      · exact .failed _
      · next id hid =>
        -- the number is used up before the name is looked at
        dsimp only
        split
        · next f hname => exact .volumeNumbered hname
        · exact .volumeCreated horder hsize hid rfl rfl

theorem attachVolume_effect (volume node : String) (options : Options) :
    s.Effect now (.attachVolume volume node options) (s.attachVolume volume node options).answer
      (s.attachVolume volume node options).store := by
  rw [attachVolume]
  split
  · exact .failed _
  · split
    · exact .failed _
    · next hscope =>
      split
      · exact .declined rfl
      · next v hv =>
        split
        · next a ha =>
          split
          · next hnode => exact .held (by rw [holder, ha, ← hnode]; rfl)
          · exact .declined rfl
        · next hfree => exact .attached hscope hv hfree

theorem detachVolume_effect (volume : String) (options : Options) :
    s.Effect now (.detachVolume volume options) (s.detachVolume volume options).answer
      (s.detachVolume volume options).store := by
  rw [detachVolume]
  split
  · exact .failed _
  · split
    · exact .declined rfl
    · next v hv =>
      split
      · exact .declined rfl
      · split
        · exact .failed _
        · exact .declined rfl
        · rw [unlink_eq]
          exact .detached hv

theorem removeVolume_effect (volume : String) :
    s.Effect now (.removeVolume volume) (s.removeVolume volume).answer
      (s.removeVolume volume).store := by
  rw [removeVolume]
  split
  · exact .failed _
  · split
    · exact .declined rfl
    · next v hv =>
      rw [unlink_eq]
      exact .volumeRemoved hv

/-- Why a snapshot is not made once its id has been used up. -/
theorem asked_eq_error {options : Options} {f : Fault}
    (h : (do return (← if options.isGiven then options.name? else .ok none, ← now)) =
      (.error f : Except Fault (Option String × Timestamp))) :
    options.isGiven = true ∧ options.name? = .error f ∨ now = .error f := by
  cases hgiven : options.isGiven with
  | false =>
    cases now with
    | error g => exact .inr (by simpa [hgiven, Bind.bind, Except.bind] using h)
    | ok _ => simp [hgiven, Bind.bind, Except.bind, pure, Except.pure] at h
  | true =>
    cases hname : options.name? with
    | error g => exact .inl ⟨rfl, by simpa [hgiven, hname, Bind.bind, Except.bind] using h⟩
    | ok _ =>
      cases now with
      | error g => exact .inr (by simpa [hgiven, hname, Bind.bind, Except.bind] using h)
      | ok _ => simp [hgiven, hname, Bind.bind, Except.bind, pure, Except.pure] at h

theorem createSnapshot_effect (volume : String) (options : Options) :
    s.Effect now (.createSnapshot volume options) (s.createSnapshot volume options now).answer
      (s.createSnapshot volume options now).store := by
  rw [createSnapshot]
  split
  · exact .failed _
  · next handle hhandle =>
    split
    · exact .declined rfl
    · next v hv =>
      dsimp only
      split
      · exact .failed _
      · next id hid =>
        split
        · next f hasked => exact .snapshotNumbered (asked_eq_error now hasked)
        · exact .snapshotCreated hhandle hv rfl hid rfl rfl

theorem deleteSnapshot_effect (snapshot : String) :
    s.Effect now (.deleteSnapshot snapshot) (s.deleteSnapshot snapshot).answer
      (s.deleteSnapshot snapshot).store := by
  rw [deleteSnapshot]
  split
  · exact .failed _
  · split
    · exact .declined rfl
    · next n hn => exact .snapshotDeleted hn

/-- **Every operation has one of the effects.** -/
theorem perform_effect (op : Operation) :
    s.Effect now op (s.perform now op).answer (s.perform now op).store := by
  cases op with
  | createVolume name options => exact s.createVolume_effect now name options
  | attachVolume volume node options => exact s.attachVolume_effect now volume node options
  | detachVolume volume options => exact s.detachVolume_effect now volume options
  | removeVolume volume => exact s.removeVolume_effect now volume
  | createSnapshot volume options => exact s.createSnapshot_effect now volume options
  | deleteSnapshot snapshot => exact s.deleteSnapshot_effect now snapshot
  | getVolume | listVolumes | listVolumesIn | listVolumesOf | getSnapshot | listSnapshots
  | listSnapshotsIn | listSnapshotsOf => exact .kept fun _ _ => rfl

/-- **Every operation makes one of the changes**, whether it succeeds or not. -/
theorem perform_change (op : Operation) : s.Change (s.perform now op).store :=
  (s.perform_effect now op).change

/-! ## Runs -/

/-- An operation with what the clock tells it. -/
abbrev Timed := Except Fault Timestamp × Operation

/-- The store after operations one after the other, each with what its clock tells. -/
def run (s : Store) (ops : List (Except Fault Timestamp × Operation)) : Store :=
  ops.foldl (fun s op => (s.perform op.1 op.2).store) s

variable {s : Store}

theorem run_induct {P : Store → Prop} (hs : P s) (hstep : ∀ s s', P s → s.Change s' → P s')
    (ops : List (Except Fault Timestamp × Operation)) : P (s.run ops) := by
  induction ops generalizing s with
  | nil => exact hs
  | cons op ops ih => exact ih (hstep _ _ hs (s.perform_change op.1 op.2))

/-- As `run_induct`, for what a change keeps only by what was asked or answered. -/
theorem run_effect_induct {P : Store → Prop} (hs : P s) (ops : List Timed)
    (hstep : ∀ s t now op r, (now, op) ∈ ops → P s → s.Effect now op r t → P t) :
    P (s.run ops) := by
  induction ops generalizing s with
  | nil => exact hs
  | cons op ops ih =>
    refine ih (hstep _ _ _ _ _ List.mem_cons_self hs (s.perform_effect op.1 op.2)) ?_
    exact fun s t now op' r hmem => hstep s t now op' r (List.mem_cons_of_mem op hmem)

theorem run_append (s : Store) (ops more : List Timed) :
    s.run (ops ++ more) = (s.run ops).run more :=
  List.foldl_append

theorem run_concat (s : Store) (ops : List Timed) (now : Except Fault Timestamp) (op : Operation) :
    s.run (ops ++ [(now, op)]) = ((s.run ops).perform now op).store := by
  rw [run_append]
  rfl

end Store

end BlockStorage
