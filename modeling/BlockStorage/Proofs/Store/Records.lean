import BlockStorage.Proofs.Check
import BlockStorage.Proofs.Store.Exact

/-!
# What becomes of a record

A record stays under its id until it is taken out, and the id never comes back.
All that is ever rewritten is the device of a volume. A snapshot has the size of
the volume that it was made of and gives it to the volumes that are restored from
it, so sizes outlive the volumes that they were first asked for.

* `Store.Created`, `Store.Copied`: operations of which the last made a record.
* `Store.Descends`: a line of volumes and snapshots, each made of the one before.
* `Store.Sized`: every record has a size, and it is more than zero.
* `Store.run_lasting`: what becomes of the records of a new store.
-/

namespace BlockStorage

/-- The snapshot that create options name. -/
def Options.source? : Options → Option String
  | zonedVolume o => o.snapshotId
  | _ => none

/-- An operation whose create options are valid. -/
def Operation.Valid : Operation → Prop
  | createVolume _ options => options.Valid
  | _ => True

namespace Store

variable {s t : Store} {now : Except Fault Timestamp} {op : Operation}
  {r : Except Fault op.Answer} {ops : List Timed} {v w : Volume} {n : Snapshot}

/-! ## Volumes -/

/-- An id has been given to a volume, and only the device of the record may have changed. -/
structure KeepsVolume (s : Store) (v : Volume) : Prop where
  issued : Issued s.settings.volumePrefix s.nextVolume v.id
  same : ∀ w, s.volumes.get? v.id = some w → w = { v with device := w.device }

theorem KeepsVolume.put (h : s.KeepsVolume v) {volume : String}
    (hw : s.volumes.get? volume = some w) {device : Option String} {u : Volume}
    (hu : (s.volumes.put volume { w with device }).get? v.id = some u) :
    u = { v with device := u.device } := by
  rcases Table.get?_put_eq_some.mp hu with ⟨rfl, rfl⟩ | ⟨-, hold⟩
  · rw [h.same w hw]
  · exact h.same u hold

theorem Change.keepsVolume (hc : s.Change t) (h : s.KeepsVolume v) : t.KeepsVolume v := by
  cases hc with
  | kept | snapshotNumbered | snapshotCreated | snapshotDeleted => exact { h with }
  | volumeNumbered => exact ⟨h.issued.succ, h.same⟩
  | volumeCreated u location hid =>
    refine ⟨h.issued.succ, fun w hw => ?_⟩
    rcases Table.get?_put_eq_some.mp hw with ⟨hsame, -⟩ | ⟨-, hold⟩
    · -- the id of a new volume has not been given before
      exact absurd (hsame ▸ h.issued) (not_issued hid)
    · exact h.same w hold
  | attached u volume a hu | detached u volume hu => exact ⟨h.issued, fun _ => h.put hu⟩
  | volumeRemoved u volume hu =>
    exact ⟨h.issued, fun w hw => h.same w (Table.get?_erase_eq_some.mp hw).2⟩

theorem Effect.holdsVolume (he : s.Effect now op r t) (hop : op ≠ .removeVolume v.id)
    (h : v.id ∈ s.volumes.keys) : v.id ∈ t.volumes.keys := by
  cases he with
  | kept | held | volumeNumbered | snapshotNumbered | snapshotCreated | snapshotDeleted => exact h
  | volumeCreated => exact (Table.mem_keys_put ..).mpr (.inr h)
  | attached _ hw | detached hw => exact (Table.mem_keys_put ..).mpr (.inr h)
  | volumeRemoved =>
    refine (Table.mem_keys_erase ..).mpr ⟨?_, h⟩
    rintro rfl
    exact hop rfl

/-! ## Snapshots -/

/-- An id has been given to a snapshot, and its record has not changed. -/
structure KeepsSnapshot (s : Store) (n : Snapshot) : Prop where
  issued : Issued s.settings.snapshotPrefix s.nextSnapshot n.id
  same : ∀ m, s.snapshots.get? n.id = some m → m = n

theorem Change.keepsSnapshot (hc : s.Change t) (h : s.KeepsSnapshot n) : t.KeepsSnapshot n := by
  cases hc with
  | kept | volumeNumbered | volumeCreated | attached | detached | volumeRemoved => exact { h with }
  | snapshotNumbered => exact ⟨h.issued.succ, h.same⟩
  | snapshotCreated u volume handle m hhandle hu hid =>
    refine ⟨h.issued.succ, fun k hk => ?_⟩
    rcases Table.get?_put_eq_some.mp hk with ⟨hsame, -⟩ | ⟨-, hold⟩
    · exact absurd (hsame ▸ h.issued) (not_issued hid)
    · exact h.same k hold
  | snapshotDeleted m snapshot =>
    exact ⟨h.issued, fun k hk => h.same k (Table.get?_erase_eq_some.mp hk).2⟩

theorem Effect.holdsSnapshot (he : s.Effect now op r t) (hop : op ≠ .deleteSnapshot n.id)
    (h : n.id ∈ s.snapshots.keys) : n.id ∈ t.snapshots.keys := by
  cases he with
  | kept | held | volumeNumbered | volumeCreated | attached | detached | volumeRemoved
  | snapshotNumbered => exact h
  | snapshotCreated => exact (Table.mem_keys_put ..).mpr (.inr h)
  | snapshotDeleted =>
    refine (Table.mem_keys_erase ..).mpr ⟨?_, h⟩
    rintro rfl
    exact hop rfl

/-! ## Making a record -/

/-- The last of the operations was answered with a new volume. -/
def Created (s : Store) (ops : List Timed) (v : Volume) : Prop :=
  ∃ before now name options, ops = before ++ [(now, .createVolume name options)] ∧
    ((s.run before).perform now (.createVolume name options)).answer = .ok (some v)

/-- The last of the operations was answered with a new snapshot. -/
def Copied (s : Store) (ops : List Timed) (n : Snapshot) : Prop :=
  ∃ before now volume options, ops = before ++ [(now, .createSnapshot volume options)] ∧
    ((s.run before).perform now (.createSnapshot volume options)).answer = .ok (some n)

theorem Effect.created {name : Datum} {options : Options}
    (h : s.Effect now (.createVolume name options) (.ok (some v)) t) :
    t.KeepsVolume v ∧ v.id ∈ t.volumes.keys := by
  cases h with
  | kept h => cases h _ rfl
  | volumeCreated _ _ hid =>
    refine ⟨⟨issued_self hid, fun w hw => ?_⟩, (Table.mem_keys_put ..).mpr (.inl rfl)⟩
    rcases Table.get?_put_eq_some.mp hw with ⟨-, rfl⟩ | ⟨hne, -⟩
    · rfl
    · exact absurd rfl hne

theorem Effect.copied {volume : String} {options : Options}
    (h : s.Effect now (.createSnapshot volume options) (.ok (some n)) t) :
    t.KeepsSnapshot n ∧ n.id ∈ t.snapshots.keys := by
  cases h with
  | kept h => cases h _ rfl
  | snapshotCreated _ _ _ hid =>
    refine ⟨⟨issued_self hid, fun m hm => ?_⟩, (Table.mem_keys_put ..).mpr (.inl rfl)⟩
    rcases Table.get?_put_eq_some.mp hm with ⟨-, rfl⟩ | ⟨hne, -⟩
    · rfl
    · exact absurd rfl hne

theorem Created.run (h : s.Created ops v) :
    (s.run ops).KeepsVolume v ∧ v.id ∈ (s.run ops).volumes.keys := by
  obtain ⟨before, now, name, options, rfl, hanswer⟩ := h
  have heffect := (s.run before).perform_effect now (.createVolume name options)
  rw [hanswer] at heffect
  rw [run_concat]
  exact heffect.created

theorem Copied.run (h : s.Copied ops n) :
    (s.run ops).KeepsSnapshot n ∧ n.id ∈ (s.run ops).snapshots.keys := by
  obtain ⟨before, now, volume, options, rfl, hanswer⟩ := h
  have heffect := (s.run before).perform_effect now (.createSnapshot volume options)
  rw [hanswer] at heffect
  rw [run_concat]
  exact heffect.copied

/-! ## Sizes -/

/-- Every record has a size, and it is more than zero. -/
structure Sized (s : Store) : Prop where
  volumes : ∀ id v, s.volumes.get? id = some v → ∃ x, v.sizeGb = some x ∧ 0.0 < x
  snapshots : ∀ id n, s.snapshots.get? id = some n → ∃ x, n.sizeGb = some x ∧ 0.0 < x

theorem locate_eq_ok {options : Options} {o : Order} (h : locate options = .ok o) :
    o.sizeGb = options.sizeGb? ∧ o.snapshotId = options.source? := by
  cases options with
  | volume v =>
    cases h
    exact ⟨rfl, rfl⟩
  | zonedVolume z =>
    rw [locate] at h
    cases hregion : Handle.regionOfZone z.zone with
    | error why =>
      rw [hregion] at h
      cases h
    | ok region =>
      rw [hregion] at h
      simp only [Bind.bind, Except.bind] at h
      split at h
      · split at h
        · cases h
        · cases h
          exact ⟨rfl, rfl⟩
      · cases h
        exact ⟨rfl, rfl⟩
  | _ => cases h

/-- An order is what the options ask for; without a snapshot it has a size. -/
theorem order_eq_ok {options : Options} {o : Order} (h : order options = .ok o) :
    o.sizeGb = options.sizeGb? ∧ o.snapshotId = options.source? ∧
      (o.snapshotId = none → ∃ x, o.sizeGb = some x) := by
  rw [order] at h
  cases hlocate : locate options with
  | error why =>
    rw [hlocate] at h
    cases h
  | ok p =>
    obtain ⟨hsize, hsource⟩ := locate_eq_ok hlocate
    rw [hlocate] at h
    simp only [Bind.bind, Except.bind] at h
    split at h
    · cases h
    · split at h
      · split at h
        · cases h
        · next hgiven =>
          cases h
          exact ⟨hsize, hsource, fun _ => Option.ne_none_iff_exists'.mp (by simpa using hgiven)⟩
      · next id hid =>
        split at h
        · cases h
        · split at h
          · cases h
          · cases h
            exact ⟨hsize, hsource, fun hnone => absurd (hid.symm.trans hnone) (by simp)⟩

theorem Sized.ordered (h : s.Sized) {options : Options} {o : Order} {size : Option Float}
    (hvalid : options.Valid) (horder : order options = .ok o) (hsize : s.sizeOf? o = some size) :
    ∃ x, size = some x ∧ 0.0 < x := by
  obtain ⟨hasked, -, hgiven⟩ := order_eq_ok horder
  cases hsource : o.snapshotId with
  | none =>
    obtain ⟨x, hx⟩ := hgiven hsource
    rw [sizeOf?, hsource] at hsize
    exact ⟨x, (Option.some.inj hsize).symm.trans hx, hvalid.positive (hasked.symm.trans hx)⟩
  | some id =>
    rw [sizeOf?, hsource] at hsize
    obtain ⟨n, hn, rfl⟩ := Option.map_eq_some_iff.mp hsize
    cases hx : o.sizeGb with
    | none => exact h.snapshots id n hn
    | some x => exact ⟨x, rfl, hvalid.positive (hasked.symm.trans hx)⟩

theorem Effect.sized (he : s.Effect now op r t) (hop : op.Valid) (h : s.Sized) : t.Sized := by
  cases he with
  | kept | held | volumeNumbered | snapshotNumbered => exact { h with }
  | @volumeCreated name options o v horder hsize =>
    refine { h with volumes := fun id w hw => ?_ }
    rcases Table.get?_put_eq_some.mp hw with ⟨-, rfl⟩ | ⟨-, hold⟩
    · exact h.ordered hop horder hsize
    · exact h.volumes id w hold
  | attached _ hv | detached hv =>
    refine { h with volumes := fun id w hw => ?_ }
    have hsized := h.volumes _ _ hv
    rcases Table.get?_put_eq_some.mp hw with ⟨-, rfl⟩ | ⟨-, hold⟩
    · exact hsized
    · exact h.volumes id w hold
  | volumeRemoved =>
    exact { h with
      volumes := fun id w hw => h.volumes id w (Table.get?_erase_eq_some.mp hw).2 }
  | snapshotCreated _ hv hsize =>
    refine { h with snapshots := fun id m hm => ?_ }
    rcases Table.get?_put_eq_some.mp hm with ⟨-, rfl⟩ | ⟨-, hold⟩
    · rw [hsize]
      exact h.volumes _ _ hv
    · exact h.snapshots id m hold
  | snapshotDeleted =>
    exact { h with
      snapshots := fun id m hm => h.snapshots id m (Table.get?_erase_eq_some.mp hm).2 }

/-! ## Lines -/

/-- A line of records that goes back to one volume: a snapshot is made of a volume, and a volume is
restored from a snapshot without a size of its own. Between two steps anything may happen. -/
inductive Descends (s : Store) (first : Volume) : List Timed → Volume ⊕ Snapshot → Prop
  | created {ops : List Timed} (h : s.Created ops first) : Descends s first ops (.inl first)
  | copied {ops : List Timed} {v : Volume} {n : Snapshot} (between : List Timed)
      (now : Except Fault Timestamp) (options : Options) (h : Descends s first ops (.inl v))
      (hn : ((s.run (ops ++ between)).perform now (.createSnapshot v.id options)).answer =
        .ok (some n)) :
      Descends s first (ops ++ between ++ [(now, .createSnapshot v.id options)]) (.inr n)
  | restored {ops : List Timed} {n : Snapshot} {v : Volume} (between : List Timed)
      (now : Except Fault Timestamp) (name : Datum) (options : Options)
      (h : Descends s first ops (.inr n))
      (hsource : options.source? = some n.id) (hsize : options.sizeGb? = none)
      (hv : ((s.run (ops ++ between)).perform now (.createVolume name options)).answer =
        .ok (some v)) :
      Descends s first (ops ++ between ++ [(now, .createVolume name options)]) (.inl v)

namespace Descends

variable {first : Volume}

theorem created_last (h : s.Descends first ops (.inl v)) : s.Created ops v := by
  cases h with
  | created h => exact h
  | restored between now name options _ _ _ hv => exact ⟨_, now, name, options, rfl, hv⟩

theorem copied_last (h : s.Descends first ops (.inr n)) : s.Copied ops n := by
  cases h with
  | copied between now options _ hn => exact ⟨_, now, _, options, rfl, hn⟩

end Descends

/-! ## Runs -/

theorem run_keepsVolume (h : s.KeepsVolume v) (ops : List Timed) : (s.run ops).KeepsVolume v :=
  run_induct h (fun _ _ hold hc => hc.keepsVolume hold) ops

theorem run_keepsSnapshot (h : s.KeepsSnapshot n) (ops : List Timed) :
    (s.run ops).KeepsSnapshot n :=
  run_induct h (fun _ _ hold hc => hc.keepsSnapshot hold) ops

/-- A copy has the size of the volume that it is made of. -/
theorem KeepsVolume.size_copied (h : s.KeepsVolume v) {options : Options}
    (he : s.Effect now (.createSnapshot v.id options) (.ok (some n)) t) : n.sizeGb = v.sizeGb := by
  cases he with
  | kept hno => cases hno _ rfl
  | snapshotCreated _ hw hsize => rw [hsize, h.same _ hw]

/-- A volume that is restored without a size of its own has the size of the snapshot. -/
theorem KeepsSnapshot.size_restored (h : s.KeepsSnapshot n) {name : Datum} {options : Options}
    (hsource : options.source? = some n.id) (hnone : options.sizeGb? = none)
    (he : s.Effect now (.createVolume name options) (.ok (some v)) t) : v.sizeGb = n.sizeGb := by
  cases he with
  | kept hno => cases hno _ rfl
  | @volumeCreated _ _ o _ horder hsize =>
    obtain ⟨hasked, hnamed, -⟩ := order_eq_ok horder
    rw [sizeOf?, hnamed, hsource] at hsize
    obtain ⟨m, hm, hv⟩ := Option.map_eq_some_iff.mp hsize
    rw [h.same m hm, hasked, hnone] at hv
    exact hv.symm

/-- **Sizes outlive the volumes that they were asked for.** -/
theorem Descends.size {first : Volume} {last : Volume ⊕ Snapshot} (h : s.Descends first ops last) :
    last.elim (·.sizeGb) (·.sizeGb) = first.sizeGb := by
  induction h with
  | created => rfl
  | @copied ops v n between now options h hn ih =>
    have hkept := run_keepsVolume h.created_last.run.1 between
    rw [← run_append] at hkept
    have heffect := (s.run (ops ++ between)).perform_effect now (.createSnapshot v.id options)
    rw [hn] at heffect
    exact (hkept.size_copied heffect).trans ih
  | @restored ops n v between now name options h hsource hsize hv ih =>
    have hkept := run_keepsSnapshot h.copied_last.run.1 between
    rw [← run_append] at hkept
    have heffect := (s.run (ops ++ between)).perform_effect now (.createVolume name options)
    rw [hv] at heffect
    exact (hkept.size_restored hsource hsize heffect).trans ih

/-- What becomes of the records of a store under its operations. -/
structure Lasting (s : Store) : Prop where
  /-- Under the id of a volume there is never anything but that volume, with whatever device, -/
  volume : ∀ ops v, s.Created ops v → ∀ more w,
    (s.run (ops ++ more)).volumes.get? v.id = some w → w = { v with device := w.device }
  /-- and it stays there until it is removed. -/
  volumeStays : ∀ ops v, s.Created ops v → ∀ more, (∀ e ∈ more, e.2 ≠ .removeVolume v.id) →
    ∃ w, (s.run (ops ++ more)).volumes.get? v.id = some w
  /-- Under the id of a snapshot there is never anything but that snapshot, -/
  snapshot : ∀ ops n, s.Copied ops n → ∀ more m,
    (s.run (ops ++ more)).snapshots.get? n.id = some m → m = n
  /-- and it stays there until it is deleted, whatever becomes of its volume. -/
  snapshotStays : ∀ ops n, s.Copied ops n → ∀ more, (∀ e ∈ more, e.2 ≠ .deleteSnapshot n.id) →
    (s.run (ops ++ more)).snapshots.get? n.id = some n
  /-- Every record has a size above zero. -/
  sized : ∀ ops : List Timed, (∀ e ∈ ops, e.2.Valid) → (s.run ops).Sized
  /-- A line of records has one size. -/
  line : ∀ ops first last, s.Descends first ops last →
    last.elim (·.sizeGb) (·.sizeGb) = first.sizeGb

theorem Sized.new (settings : StoreSettings) (volumeType : VolumeType) :
    Sized { settings, volumeType } where
  volumes _ _ h := by cases h
  snapshots _ _ h := by cases h

/-- **A record lasts as it was made until it is taken out**, and every size is that of a first
volume. -/
theorem run_lasting {settings : StoreSettings} (hs : Store.new settings = .ok s) : s.Lasting where
  volume ops v h more w hw := by
    rw [run_append] at hw
    exact (run_keepsVolume h.run.1 more).same w hw
  volumeStays ops v h more hmore := by
    rw [run_append]
    have hstays := run_effect_induct (P := fun t => v.id ∈ t.volumes.keys) h.run.2 more
      fun _ _ _ _ _ hmem hold he => he.holdsVolume (hmore _ hmem) hold
    exact Table.mem_keys_iff.mp hstays
  snapshot ops n h more m hm := by
    rw [run_append] at hm
    exact (run_keepsSnapshot h.run.1 more).same m hm
  snapshotStays ops n h more hmore := by
    rw [run_append]
    have hstays := run_effect_induct (P := fun t => n.id ∈ t.snapshots.keys) h.run.2 more
      fun _ _ _ _ _ hmem hold he => he.holdsSnapshot (hmore _ hmem) hold
    obtain ⟨m, hm⟩ := Table.mem_keys_iff.mp hstays
    rw [hm, (run_keepsSnapshot h.run.1 more).same m hm]
  sized ops hvalid := by
    obtain ⟨volumeType, rfl⟩ := new_eq_ok hs
    exact run_effect_induct (P := Sized) (.new settings volumeType) ops
      fun _ _ _ _ _ hmem hold he => he.sized (hvalid _ hmem) hold
  line _ _ _ h := h.size

namespace Restoration

/-- The store and the clock of an example: a volume is copied, removed and restored. -/
def start : Store := { settings := {}, volumeType := .localDisk }

def clock : Timestamp := ⟨2024, 1, 1, 0, 0, 0, 0, .given 0⟩

def first : Volume := { id := "us-east-1/vol-1", sizeGb := some 8.0, location := some "us-east-1" }

def copy : Snapshot :=
  ⟨"us-east-1/snap-1", first.sizeGb, none, first.location, some first.id, some clock⟩

def last : Volume := { first with id := "us-east-1/vol-2" }

def asked : Operation :=
  .createVolume .null (.volume { sizeGb := some 8.0, location := some "us-east-1" })

def again : Options := .zonedVolume { zone := "us-east-1a", snapshotId := some copy.id }

theorem descends : ∃ ops, start.Descends first ops (.inl last) ∧
    (start.run ops).volumes.get? first.id = none := by
  have hfirst : start.Descends first [(.ok clock, asked)] (.inl first) :=
    .created ⟨[], .ok clock, _, _, rfl, rfl⟩
  have hcopy := hfirst.copied (n := copy) [] (.ok clock) (.other .null) rfl
  have hlast := hcopy.restored (v := last) [(.ok clock, .removeVolume first.id)] (.ok clock) .null
    again rfl rfl rfl
  exact ⟨_, hlast, rfl⟩

end Restoration

/-- A volume is copied, removed and restored, and the new one has the size of the old. -/
theorem restored_lasting :
    Store.new {} = .ok Restoration.start ∧ Restoration.start.Lasting ∧
      ∃ ops, Restoration.start.Descends Restoration.first ops (.inl Restoration.last) ∧
        (Restoration.start.run ops).volumes.get? Restoration.first.id = none ∧
        Restoration.last.sizeGb = Restoration.first.sizeGb := by
  have hnew : Store.new {} = .ok Restoration.start := rfl
  have hlasting := run_lasting hnew
  obtain ⟨ops, hdescends, hgone⟩ := Restoration.descends
  exact ⟨hnew, hlasting, ops, hdescends, hgone, hlasting.line ops _ _ hdescends⟩

end Store

end BlockStorage
