import BlockStorage.Proofs.Store.Alike
import BlockStorage.Proofs.Store.Records

/-!
# Operations that undo each other

To detach a volume undoes attaching it, to remove a new volume undoes creating it, and
to delete a new snapshot undoes making it. The main tables are as they were because
there was nothing under the id before; the indices follow from them, so no key is left
behind. Only the number of the new id stays used up.

* `Options.Selects`: detach options that an attachment passes.
* `Store.Undoes`: an operation succeeds, and leads back to a store.
* `Store.Reversible`: the three pairs of operations.
* `Store.run_reversible`: every store that was worked with is reversible.
-/

namespace BlockStorage

/-- Detach options that an attachment passes: none were given, or each filter is absent or names
what the attachment has. -/
inductive Options.Selects (a : Attachment) : Options → Prop
  | any {d : Datum} (h : d.isTruthy = false) : Selects a (.other d)
  | plain {o : PlainDetachOptions} (hdevice : ∀ d ∈ o.device, d = a.device)
      (hnode : ∀ n ∈ o.nodeId, n = a.node) : Selects a (.detach o)
  | forced {o : ForcedDetachOptions} (hdevice : ∀ d ∈ o.device, d = a.device)
      (hnode : ∀ n ∈ o.nodeId, n = a.node) : Selects a (.forcedDetach o)

namespace Store

variable {s before : Store} {now : Except Fault Timestamp}

/-! ## Operations that succeed -/

theorem filters_pass {a : Attachment} {device node : Option String}
    (hdevice : ∀ d ∈ device, d = a.device) (hnode : ∀ n ∈ node, n = a.node) :
    device.any (· ≠ a.device) = false ∧ node.all (· = a.node) = true := by
  constructor
  · cases device with
    | none => rfl
    | some d => simpa using hdevice d rfl
  · cases node with
    | none => rfl
    | some n => simpa using hnode n rfl

theorem passes_of_selects {options : Options} {a : Attachment} (h : options.Selects a) :
    passes options a = .ok true := by
  cases h with
  | any h =>
    rw [passes, Options.isGiven, h]
    rfl
  | plain hdevice hnode | forced hdevice hnode =>
    obtain ⟨hany, hall⟩ := filters_pass hdevice hnode
    simp only [passes, Options.isGiven, Options.device?, Options.nodeId?, Bool.not_true,
      Bool.false_eq_true, if_false, Bind.bind, Except.bind, Pure.pure, Except.pure, hany, hall]

/-- A free volume is attached by the device that was asked for. -/
theorem attachVolume_free {volume node device : String} {options : Options}
    (hfree : s.attachments.get? volume = none) (hdevice : options.requiredDevice = .ok device)
    (h : (s.attachVolume volume node options).answer = .ok true) :
    ∃ v, s.volumes.get? volume = some v ∧
      (s.attachVolume volume node options).store = s.link v volume ⟨node, device⟩ := by
  rw [attachVolume, hdevice] at h ⊢
  cases hscope : Handle.sameScope volume node with
  | error why =>
    rw [hscope] at h
    cases h
  | ok ends =>
    cases hv : s.volumes.get? volume with
    | none =>
      simp only [hscope, hv] at h
      cases h
    | some v =>
      refine ⟨v, rfl, ?_⟩
      simp only [hfree]

theorem detachVolume_selected {volume : String} {options : Options} {k : Handle} {v : Volume}
    {a : Attachment} (hk : Handle.decode volume = .ok k) (hv : s.volumes.get? volume = some v)
    (ha : s.attachments.get? volume = some a) (hselects : options.Selects a) :
    (s.detachVolume volume options).answer = .ok true := by
  rw [detachVolume]
  simp only [hk, hv, ha, passes_of_selects hselects]

theorem removeVolume_stored {volume : String} {k : Handle} {v : Volume}
    (hk : Handle.decode volume = .ok k) (hv : s.volumes.get? volume = some v) :
    (s.removeVolume volume).answer = .ok true := by
  rw [removeVolume]
  simp only [hk, hv]

theorem deleteSnapshot_stored {snapshot : String} {k : Handle} {n : Snapshot}
    (hk : Handle.decode snapshot = .ok k) (hn : s.snapshots.get? snapshot = some n) :
    (s.deleteSnapshot snapshot).answer = .ok true := by
  rw [deleteSnapshot]
  simp only [hk, hn]

/-! ## Undoing -/

/-- An operation on a store answers yes and leads back to a store: the two are alike. -/
structure Undoes (s : Store) (now : Except Fault Timestamp) (op : Operation) (yes : op.Answer)
    (before : Store) : Prop where
  answer : (s.perform now op).answer = .ok yes
  store : (s.perform now op).store.Alike before

/-- Where an operation answers yes, it is enough to look at its effects with that answer. -/
theorem Undoes.of_effect {op : Operation} {yes : op.Answer}
    (hanswer : (s.perform now op).answer = .ok yes)
    (hstore : ∀ u, s.Effect now op (.ok yes) u → u.Alike before) : s.Undoes now op yes before where
  answer := hanswer
  store := hstore _ (hanswer ▸ s.perform_effect now op)

namespace Exact

variable (h : s.Exact)

include h

theorem device_eq_none {volume : String} {v : Volume} (hv : s.volumes.get? volume = some v)
    (hfree : s.attachments.get? volume = none) : v.device = none := by
  cases hdevice : v.device with
  | none => rfl
  | some d =>
    have hattached := (h.device volume d).mp ⟨v, hv, hdevice⟩
    exact absurd hattached (Table.not_where_of_get? hfree)

/-- **Detaching undoes attaching.** -/
theorem detach_undoes {volume : String} {v : Volume} {a : Attachment} {options : Options}
    (hv : s.volumes.get? volume = some v) (hfree : s.attachments.get? volume = none)
    (hselects : options.Selects a) :
    (s.link v volume a).Undoes now (.detachVolume volume options) true s := by
  obtain ⟨k, hk, -⟩ := h.volumeScope volume v hv
  have hlinked : (s.link v volume a).volumes.get? volume =
      some { v with device := some a.device } := by
    rw [link, Table.get?_put, if_pos rfl]
  have ha : (s.link v volume a).attachments.get? volume = some a := by
    rw [link, Table.get?_put, if_pos rfl]
  refine .of_effect (detachVolume_selected hk hlinked ha hselects) fun u heffect => ?_
  cases heffect with
  | kept hno => cases hno _ rfl
  | @detached _ _ w hw =>
    obtain rfl := Option.some.inj (hw.symm.trans hlinked)
    refine ((h.attached hv hfree).detached hw).alike h ⟨rfl, rfl, rfl, rfl⟩ ?_ (fun _ => rfl) ?_
    · intro name
      simp only [link, Table.get?_put]
      split
      · next heq =>
        -- the device was absent before, so taking it away gives the record back
        rw [← heq, hv, ← h.device_eq_none hv hfree]
      · rfl
    · intro name
      simp only [link, Table.get?_erase, Table.get?_put]
      split
      · next heq => rw [← heq, hfree]
      · rfl

/-- **Removing a volume undoes creating it**, but for its number. -/
theorem remove_undoes (hn : s.Numbered) {v : Volume} {location : String}
    (hid : Handle.encode location (s.settings.volumePrefix ++ toString s.nextVolume) = .ok v.id)
    (hlocation : v.location = some location) (hdevice : v.device = none) :
    ({ s with nextVolume := s.nextVolume + 1 }.insertVolume v location).Undoes now
      (.removeVolume v.id) true { s with nextVolume := s.nextVolume + 1 } := by
  have hnone : s.volumes.get? v.id = none :=
    Table.get?_eq_none_iff.mpr fun hmem => not_issued hid (hn.volumes _ hmem)
  have hv : ({ s with nextVolume := s.nextVolume + 1 }.insertVolume v location).volumes.get? v.id =
      some v := by
    rw [insertVolume, Table.get?_put, if_pos rfl]
  have hbefore : Exact { s with nextVolume := s.nextVolume + 1 } := { h with }
  refine .of_effect (removeVolume_stored (Handle.decode_encode hid) hv) fun u heffect => ?_
  cases heffect with
  | kept hno => cases hno _ rfl
  | volumeRemoved hw =>
    refine ((h.volumeCreated hn hid hlocation hdevice).volumeRemoved hw).alike hbefore
      ⟨rfl, rfl, rfl, rfl⟩ ?_ (fun _ => rfl) ?_
    · intro name
      simp only [insertVolume, Table.get?_erase, Table.get?_put]
      split
      · next heq => rw [← heq, hnone]
      · rfl
    · intro name
      simp only [insertVolume, Table.get?_erase]
      split
      · next heq => rw [← heq, h.get?_attachments hnone]
      · rfl

/-- **Deleting a snapshot undoes making it**, but for its number. -/
theorem delete_undoes (hn : s.Numbered) {v : Volume} {volume : String} {handle : Handle}
    {n : Snapshot} (hhandle : Handle.decode volume = .ok handle)
    (hv : s.volumes.get? volume = some v)
    (hid : Handle.encode (snapshotLocation v handle)
      (s.settings.snapshotPrefix ++ toString s.nextSnapshot) = .ok n.id)
    (hlocation : n.location = some (snapshotLocation v handle))
    (hvolume : n.volumeId = some volume) :
    ({ s with nextSnapshot := s.nextSnapshot + 1 }.insertSnapshot n (snapshotLocation v handle)
      volume).Undoes now (.deleteSnapshot n.id) true
        { s with nextSnapshot := s.nextSnapshot + 1 } := by
  have hnone : s.snapshots.get? n.id = none :=
    Table.get?_eq_none_iff.mpr fun hmem => not_issued hid (hn.snapshots _ hmem)
  have hcopy : ({ s with nextSnapshot := s.nextSnapshot + 1 }.insertSnapshot n
      (snapshotLocation v handle) volume).snapshots.get? n.id = some n := by
    rw [insertSnapshot, Table.get?_put, if_pos rfl]
  have hbefore : Exact { s with nextSnapshot := s.nextSnapshot + 1 } := { h with }
  refine .of_effect (deleteSnapshot_stored (Handle.decode_encode hid) hcopy) fun u heffect => ?_
  cases heffect with
  | kept hno => cases hno _ rfl
  | snapshotDeleted hm =>
    refine ((h.snapshotCreated hn hhandle hv hid hlocation hvolume).snapshotDeleted hm).alike
      hbefore ⟨rfl, rfl, rfl, rfl⟩ (fun _ => rfl) ?_ fun _ => rfl
    intro name
    simp only [insertSnapshot, Table.get?_erase, Table.get?_put]
    split
    · next heq => rw [← heq, hnone]
    · rfl

end Exact

/-! ## Stores that were worked with -/

/-- What an operation does to a store its opposite undoes. -/
structure Reversible (s : Store) : Prop where
  /-- A free volume is attached, and then detached by options that its attachment passes. -/
  attached : ∀ now now' volume node device attaching detaching,
    s.attachments.get? volume = none →
    attaching.requiredDevice = .ok device → detaching.Selects ⟨node, device⟩ →
    (s.perform now (.attachVolume volume node attaching)).answer = .ok true →
    (s.perform now (.attachVolume volume node attaching)).store.Undoes now'
      (.detachVolume volume detaching) true s
  /-- A volume is created and then removed; its number stays used up. -/
  created : ∀ now now' name options v,
    (s.perform now (.createVolume name options)).answer = .ok (some v) →
    (s.perform now (.createVolume name options)).store.Undoes now' (.removeVolume v.id) true
      { s with nextVolume := s.nextVolume + 1 }
  /-- A snapshot is made and then deleted; its number stays used up. -/
  copied : ∀ now now' volume options n,
    (s.perform now (.createSnapshot volume options)).answer = .ok (some n) →
    (s.perform now (.createSnapshot volume options)).store.Undoes now' (.deleteSnapshot n.id) true
      { s with nextSnapshot := s.nextSnapshot + 1 }

/-- **In every store that was worked with, an operation is undone by its opposite.** -/
theorem run_reversible {settings : StoreSettings} (hs : Store.new settings = .ok s)
    (ops : List Timed) : (s.run ops).Reversible := by
  obtain ⟨hn, h⟩ := run_new hs ops
  generalize s.run ops = s at hn h
  constructor
  · intro now now' volume node device attaching detaching hfree hdevice hselects hanswer
    obtain ⟨v, hv, hstore⟩ := attachVolume_free hfree hdevice hanswer
    show Undoes (s.attachVolume volume node attaching).store _ _ _ _
    rw [hstore]
    exact h.detach_undoes hv hfree hselects
  · intro now now' name options v hanswer
    have heffect := s.perform_effect now (.createVolume name options)
    rw [hanswer] at heffect
    generalize (s.perform now (.createVolume name options)).store = t at heffect
    cases heffect with
    | kept hno => cases hno _ rfl
    | volumeCreated _ _ hid hlocation hdevice => exact h.remove_undoes hn hid hlocation hdevice
  · intro now now' volume options n hanswer
    have heffect := s.perform_effect now (.createSnapshot volume options)
    rw [hanswer] at heffect
    generalize (s.perform now (.createSnapshot volume options)).store = t at heffect
    cases heffect with
    | kept hno => cases hno _ rfl
    | snapshotCreated hhandle hv _ hid hlocation hvolume =>
      exact h.delete_undoes hn hhandle hv hid hlocation hvolume

namespace Restoration

/-- The store with one volume. -/
def occupied : Store := start.run [(.ok clock, asked)]

/-- The volume of a store is attached, and detached by device and node; a second one is created
beside it and removed; a snapshot of it is made and deleted. -/
theorem all_undone :
    Store.new {} = .ok start ∧
      (occupied.perform (.ok clock)
        (.attachVolume first.id "us-east-1/i-1" (.attach ⟨"/dev/sdh"⟩))).store.Undoes (.ok clock)
        (.detachVolume first.id (.detach ⟨some "/dev/sdh", some "us-east-1/i-1"⟩)) true occupied ∧
      (occupied.perform (.ok clock) asked).store.Undoes (.ok clock) (.removeVolume last.id) true
        { occupied with nextVolume := 3 } ∧
      (occupied.perform (.ok clock) (.createSnapshot first.id (.other .null))).store.Undoes
        (.ok clock) (.deleteSnapshot copy.id) true { occupied with nextSnapshot := 2 } := by
  have hnew : Store.new {} = .ok start := rfl
  have hreversible : occupied.Reversible := run_reversible hnew [(.ok clock, asked)]
  refine ⟨hnew, ?_, ?_, ?_⟩
  · refine hreversible.attached (.ok clock) (.ok clock) first.id "us-east-1/i-1" "/dev/sdh"
      (.attach ⟨"/dev/sdh"⟩) _ rfl rfl (.plain ?_ ?_) rfl
    · rintro _ ⟨⟩
      rfl
    · rintro _ ⟨⟩
      rfl
  · exact hreversible.created (.ok clock) (.ok clock) .null _ last rfl
  · exact hreversible.copied (.ok clock) (.ok clock) first.id (.other .null) copy rfl

end Restoration

end Store

end BlockStorage
