import BlockStorage.Proofs.Store.Alike

/-!
# Operations on different resources

To attach, detach and remove a volume and to delete a snapshot, a store looks at the
record of that one resource and writes nothing else into its tables. The indices are
shared: volumes meet at their node and at their location, a snapshot meets others at
its volume. But the tables determine the indices, so two such operations on different
resources commute, whatever they answer, and also if one empties an entry that the
other is about to write.

* `Operation.subject?`: the one resource that an operation is about.
* `Store.AgreesAt`: two stores hold the same of a resource.
* `Store.perform_congr`: an operation only looks at its resource.
* `Store.perform_frame`: it leaves all other resources alone.
* `Store.run_commute`: operations on different resources commute.
-/

namespace BlockStorage

/-- A volume or a snapshot, by its handle; never both. -/
inductive Subject
  | volume (id : String)
  | snapshot (id : String)
  deriving DecidableEq

/-- The resource of an operation that changes what is there and makes nothing new. -/
def Operation.subject? : Operation → Option Subject
  | attachVolume volume _ _ | detachVolume volume _ | removeVolume volume => some (.volume volume)
  | deleteSnapshot snapshot => some (.snapshot snapshot)
  | _ => none

namespace Store

variable {s t : Store} {x y : Subject} {op : Operation} {now now' : Except Fault Timestamp}

/-! ## What stores hold of one resource -/

/-- Two stores hold the same of a resource: its record, and its attachment if it is a volume. -/
def AgreesAt (s t : Store) : Subject → Prop
  | .volume id =>
    s.volumes.get? id = t.volumes.get? id ∧ s.attachments.get? id = t.attachments.get? id
  | .snapshot id => s.snapshots.get? id = t.snapshots.get? id

theorem AgreesAt.refl (s : Store) (x : Subject) : s.AgreesAt s x := by
  cases x with
  | volume id => exact ⟨rfl, rfl⟩
  | snapshot id => rfl

theorem AgreesAt.symm (h : s.AgreesAt t x) : t.AgreesAt s x := by
  cases x with
  | volume id => exact ⟨h.1.symm, h.2.symm⟩
  | snapshot id => exact Eq.symm h

theorem AgreesAt.trans {u : Store} (h : s.AgreesAt t x) (h' : t.AgreesAt u x) :
    s.AgreesAt u x := by
  cases x with
  | volume id => exact ⟨h.1.trans h'.1, h.2.trans h'.2⟩
  | snapshot id => exact Eq.trans h h'

/-! ## An operation only looks at its resource -/

/-- Two steps answer and report the same, and leave the same of a resource. -/
structure Step.SameAt {α : Type} (p q : Step α) (x : Subject) : Prop where
  answer : p.answer = q.answer
  event : p.event = q.event
  store : p.store.AgreesAt q.store x

theorem sameAt_answering {α : Type} (h : s.AgreesAt t x) (answer : Except Fault α)
    (event : Option StoreEvent) :
    (s.answering answer event).SameAt (t.answering answer event) x := ⟨rfl, rfl, h⟩

theorem unlink_volumes (s : Store) (volume : String) : (s.unlink volume).volumes = s.volumes := by
  rw [unlink_eq]

theorem unlink_attachments (s : Store) (volume : String) :
    (s.unlink volume).attachments = s.attachments.erase volume := by
  rw [unlink_eq]

theorem attachVolume_congr {volume : String} (h : s.AgreesAt t (.volume volume)) (node : String)
    (options : Options) :
    (s.attachVolume volume node options).SameAt (t.attachVolume volume node options)
      (.volume volume) := by
  have hvolume := h.1
  have hattachment := h.2
  rw [attachVolume, attachVolume, ← hvolume, ← hattachment]
  split
  · exact sameAt_answering h _ _
  · split
    · exact sameAt_answering h _ _
    · split
      · exact sameAt_answering h _ _
      · split
        · split
          · exact sameAt_answering h _ _
          · exact sameAt_answering h _ _
        · refine ⟨rfl, rfl, ?_, ?_⟩
          · rw [link, link, Table.get?_put, Table.get?_put, if_pos rfl, if_pos rfl]
          · rw [link, link, Table.get?_put, Table.get?_put, if_pos rfl, if_pos rfl]

theorem detachVolume_congr {volume : String} (h : s.AgreesAt t (.volume volume))
    (options : Options) :
    (s.detachVolume volume options).SameAt (t.detachVolume volume options) (.volume volume) := by
  have hvolume := h.1
  have hattachment := h.2
  rw [detachVolume, detachVolume, ← hvolume, ← hattachment]
  split
  · exact sameAt_answering h _ _
  · split
    · exact sameAt_answering h _ _
    · split
      · exact sameAt_answering h _ _
      · split
        · exact sameAt_answering h _ _
        · exact sameAt_answering h _ _
        · refine ⟨rfl, rfl, ?_, ?_⟩
          · rw [Table.get?_put, Table.get?_put, if_pos rfl, if_pos rfl]
          · rw [unlink_attachments, unlink_attachments, Table.get?_erase, Table.get?_erase,
              if_pos rfl, if_pos rfl]

theorem removeVolume_congr {volume : String} (h : s.AgreesAt t (.volume volume)) :
    (s.removeVolume volume).SameAt (t.removeVolume volume) (.volume volume) := by
  have hvolume := h.1
  rw [removeVolume, removeVolume, ← hvolume]
  split
  · exact sameAt_answering h _ _
  · split
    · exact sameAt_answering h _ _
    · refine ⟨rfl, rfl, ?_, ?_⟩
      · rw [unlink_volumes, unlink_volumes, Table.get?_erase, Table.get?_erase, if_pos rfl,
          if_pos rfl]
      · rw [unlink_attachments, unlink_attachments, Table.get?_erase, Table.get?_erase,
          if_pos rfl, if_pos rfl]

theorem deleteSnapshot_congr {snapshot : String} (h : s.AgreesAt t (.snapshot snapshot)) :
    (s.deleteSnapshot snapshot).SameAt (t.deleteSnapshot snapshot) (.snapshot snapshot) := by
  have hsnapshot : s.snapshots.get? snapshot = t.snapshots.get? snapshot := h
  rw [deleteSnapshot, deleteSnapshot, ← hsnapshot]
  split
  · exact sameAt_answering h _ _
  · split
    · exact sameAt_answering h _ _
    · refine ⟨rfl, rfl, ?_⟩
      show (s.snapshots.erase snapshot).get? snapshot = (t.snapshots.erase snapshot).get? snapshot
      rw [Table.get?_erase, Table.get?_erase, if_pos rfl, if_pos rfl]

/-- **An operation only looks at its resource**: where two stores agree there, it answers the same
and leaves the same. -/
theorem perform_congr (hop : op.subject? = some x) (h : s.AgreesAt t x) :
    (s.perform now op).SameAt (t.perform now op) x := by
  cases op with
  | attachVolume volume node options =>
    obtain rfl := Option.some.inj hop
    exact attachVolume_congr h node options
  | detachVolume volume options =>
    obtain rfl := Option.some.inj hop
    exact detachVolume_congr h options
  | removeVolume volume =>
    obtain rfl := Option.some.inj hop
    exact removeVolume_congr h
  | deleteSnapshot snapshot =>
    obtain rfl := Option.some.inj hop
    exact deleteSnapshot_congr h
  | _ => cases hop

/-! ## It leaves all else alone -/

section

variable {r : Except Fault op.Answer}

/-- An operation writes nothing of other resources. -/
theorem Effect.frame (he : s.Effect now op r t) (hop : op.subject? = some x) (hne : x ≠ y) :
    t.AgreesAt s y := by
  cases he with
  | kept | held => exact .refl s y
  | volumeNumbered | volumeCreated | snapshotNumbered | snapshotCreated => cases hop
  | @attached volume node device options v =>
    obtain rfl := Option.some.inj hop
    cases y with
    | snapshot id => rfl
    | volume id =>
      have hid : volume ≠ id := fun heq => hne (congrArg Subject.volume heq)
      refine ⟨?_, ?_⟩
      · rw [link, Table.get?_put, if_neg hid]
      · rw [link, Table.get?_put, if_neg hid]
  | @detached volume options v =>
    obtain rfl := Option.some.inj hop
    cases y with
    | snapshot id => rfl
    | volume id =>
      have hid : volume ≠ id := fun heq => hne (congrArg Subject.volume heq)
      refine ⟨?_, ?_⟩
      · rw [Table.get?_put, if_neg hid]
      · rw [Table.get?_erase, if_neg hid]
  | @volumeRemoved volume v =>
    obtain rfl := Option.some.inj hop
    cases y with
    | snapshot id => rfl
    | volume id =>
      have hid : volume ≠ id := fun heq => hne (congrArg Subject.volume heq)
      refine ⟨?_, ?_⟩
      · rw [Table.get?_erase, if_neg hid]
      · rw [Table.get?_erase, if_neg hid]
  | @snapshotDeleted snapshot n =>
    obtain rfl := Option.some.inj hop
    cases y with
    | volume id => exact ⟨rfl, rfl⟩
    | snapshot id =>
      have hid : snapshot ≠ id := fun heq => hne (congrArg Subject.snapshot heq)
      show (s.snapshots.erase snapshot).get? id = s.snapshots.get? id
      rw [Table.get?_erase, if_neg hid]

/-- An operation that makes nothing new uses up no number. -/
theorem Effect.sameSeries (he : s.Effect now op r t) (hop : op.subject? = some x) :
    t.SameSeries s := by
  cases he with
  | kept | held => exact .refl s
  | volumeNumbered | volumeCreated | snapshotNumbered | snapshotCreated => cases hop
  | attached | detached | volumeRemoved | snapshotDeleted => exact ⟨rfl, rfl, rfl, rfl⟩

end

/-- **An operation leaves all other resources alone.** -/
theorem perform_frame (s : Store) (now : Except Fault Timestamp) (hop : op.subject? = some x)
    (hne : x ≠ y) : (s.perform now op).store.AgreesAt s y :=
  (s.perform_effect now op).frame hop hne

theorem perform_sameSeries (s : Store) (now : Except Fault Timestamp)
    (hop : op.subject? = some x) : (s.perform now op).store.SameSeries s :=
  (s.perform_effect now op).sameSeries hop

/-! ## Either order -/

/-- Stores that agree at every resource have the same tables. -/
theorem sameAs_of_agrees (h : ∀ x, s.AgreesAt t x) :
    s.volumes.SameAs t.volumes ∧ s.snapshots.SameAs t.snapshots ∧
      s.attachments.SameAs t.attachments :=
  ⟨fun id => (h (.volume id)).1, fun id => h (.snapshot id), fun id => (h (.volume id)).2⟩

section

variable {a b : Operation}

/-- After two operations on different resources the first one's resource is as the first one alone
would have left it. -/
theorem perform_perform_agrees (s : Store) (now now' : Except Fault Timestamp)
    (ha : a.subject? = some x) (hb : b.subject? = some y) (hne : x ≠ y) :
    ((s.perform now a).store.perform now' b).store.AgreesAt (s.perform now a).store x ∧
      ((s.perform now' b).store.perform now a).SameAt (s.perform now a) x :=
  ⟨perform_frame _ now' hb (Ne.symm hne), perform_congr ha (perform_frame s now' hb (Ne.symm hne))⟩

/-- In either order two operations on different resources leave the same of every resource. -/
theorem perform_comm_agrees (s : Store) (now now' : Except Fault Timestamp)
    (ha : a.subject? = some x) (hb : b.subject? = some y) (hne : x ≠ y) (z : Subject) :
    ((s.perform now a).store.perform now' b).store.AgreesAt
      ((s.perform now' b).store.perform now a).store z := by
  have hfirst := perform_perform_agrees s now now' ha hb hne
  have hsecond := perform_perform_agrees s now' now hb ha (Ne.symm hne)
  by_cases hx : x = z
  · subst hx
    exact hfirst.1.trans hfirst.2.store.symm
  · by_cases hy : y = z
    · subst hy
      exact hsecond.2.store.trans hsecond.1.symm
    · -- neither of them writes here
      have hab := (perform_frame (s.perform now a).store now' hb hy).trans
        (perform_frame s now ha hx)
      have hba := (perform_frame (s.perform now' b).store now ha hx).trans
        (perform_frame s now' hb hy)
      exact hab.trans hba.symm

theorem perform_perform_sameSeries (s : Store) (now now' : Except Fault Timestamp)
    (ha : a.subject? = some x) (hb : b.subject? = some y) :
    ((s.perform now a).store.perform now' b).store.SameSeries s :=
  (perform_sameSeries (s.perform now a).store now' hb).trans (perform_sameSeries s now ha)

end

/-- Also after two more operations a store is reached from a new one. -/
theorem perform_perform_exact {settings : StoreSettings} (hs : Store.new settings = .ok s)
    (ops : List Timed) (a b : Timed) :
    (((s.run ops).perform a.1 a.2).store.perform b.1 b.2).store.Exact := by
  have hrun := (run_new hs (ops ++ [a] ++ [b])).2
  rwa [run_concat, run_concat] at hrun

/-- Two operations commute on a store: in either order each of them answers and reports the same,
and the stores that they leave are alike. -/
structure Commute (s : Store) (a b : Timed) : Prop where
  first : ((s.perform b.1 b.2).store.perform a.1 a.2).answer = (s.perform a.1 a.2).answer
  second : ((s.perform a.1 a.2).store.perform b.1 b.2).answer = (s.perform b.1 b.2).answer
  firstEvent : ((s.perform b.1 b.2).store.perform a.1 a.2).event = (s.perform a.1 a.2).event
  secondEvent : ((s.perform a.1 a.2).store.perform b.1 b.2).event = (s.perform b.1 b.2).event
  stores : ((s.perform a.1 a.2).store.perform b.1 b.2).store.Alike
    ((s.perform b.1 b.2).store.perform a.1 a.2).store

/-- **Operations on different resources commute** on every store that was worked with: attaching,
detaching or removing one volume and doing so with another, deleting a snapshot and any of these,
also with the snapshot's own volume, or deleting two snapshots. -/
theorem run_commute {settings : StoreSettings} (hs : Store.new settings = .ok s) (ops : List Timed)
    (a b : Timed) (ha : a.2.subject? = some x) (hb : b.2.subject? = some y) (hne : x ≠ y) :
    (s.run ops).Commute a b := by
  have hfirst := (perform_perform_agrees (s.run ops) a.1 b.1 ha hb hne).2
  have hsecond := (perform_perform_agrees (s.run ops) b.1 a.1 hb ha (Ne.symm hne)).2
  obtain ⟨hvolumes, hsnapshots, hattachments⟩ :=
    sameAs_of_agrees (perform_comm_agrees (s.run ops) a.1 b.1 ha hb hne)
  refine ⟨hfirst.answer, hsecond.answer, hfirst.event, hsecond.event, ?_⟩
  -- both ends have exact indices, so the tables decide
  have hseries := (perform_perform_sameSeries (s.run ops) a.1 b.1 ha hb).trans
    (perform_perform_sameSeries (s.run ops) b.1 a.1 hb ha).symm
  exact (perform_perform_exact hs ops a b).alike (perform_perform_exact hs ops b a) hseries
    hvolumes hsnapshots hattachments

/-- Two volumes are held by one node. One is removed and the other detached: whichever comes second
takes the entry of the node away. -/
theorem neighbours_commute :
    let now : Except Fault Timestamp := .ok ⟨2024, 1, 1, 0, 0, 0, 0, .given 0⟩
    let order : Operation :=
      .createVolume .null (.volume { sizeGb := some 8.0, location := some "us-east-1" })
    let attach (volume : String) : Operation :=
      .attachVolume volume "us-east-1/i-1" (.attach ⟨"/dev/sdh"⟩)
    let ops : List Timed := [(now, order), (now, order), (now, attach "us-east-1/vol-1"),
      (now, attach "us-east-1/vol-2")]
    let remove : Operation := .removeVolume "us-east-1/vol-1"
    let detach : Operation := .detachVolume "us-east-1/vol-2" (.other .null)
    let s : Store := { settings := {}, volumeType := .localDisk }
    Store.new {} = .ok s ∧ remove.subject? = some (.volume "us-east-1/vol-1") ∧
      detach.subject? = some (.volume "us-east-1/vol-2") ∧
      ((s.run ops).perform now remove).answer = .ok true ∧
      ((s.run ops).perform now detach).answer = .ok true ∧
      (s.run ops).Commute (now, remove) (now, detach) := by
  have hnew : Store.new {} = .ok { settings := {}, volumeType := .localDisk } := rfl
  exact ⟨hnew, rfl, rfl, rfl, rfl, run_commute hnew _ _ _ rfl rfl (by decide)⟩

end Store

end BlockStorage
