import BlockStorage.Proofs.Store.Change

/-!
# Stores whose indices are exact

The two main tables and the attachments determine everything else: what a node
holds, what there is at a location, and which snapshots there are of a volume.

The indices stay exact only because no id comes back. A snapshot outlives its
volume, and a second volume of the same id would find it there, but the index
has forgotten it.

* `Store.Exact`: the tables agree with each other and the indices with them.
* `Store.Numbered`: all ids were made from numbers that have been used up.
* `Store.Change.numbered`, `Store.Change.exact`: what every change keeps.
* `Store.run_new`: both hold after any operations on a new store.
-/

namespace BlockStorage.Store

/-- The tables agree with each other, and every index holds what they determine. -/
structure Exact (s : Store) : Prop where
  volumes : s.volumes.Keyed (·.id)
  snapshots : s.snapshots.Keyed (·.id)
  attachments : s.attachments.keys.Nodup
  /-- A volume has a device exactly if it is attached by it, and nothing else is attached. -/
  device : ∀ id d, s.volumes.Where (·.device = some d) id ↔ s.attachments.Where (·.device = d) id
  nodeVolumes : s.nodeVolumes.Of s.attachments (some ·.node)
  locationVolumes : s.locationVolumes.Of s.volumes (·.location)
  locationSnapshots : s.locationSnapshots.Of s.snapshots (·.location)
  /-- The index forgets the snapshots of a volume that is gone. -/
  volumeSnapshots : s.volumeSnapshots.Holds fun volume id =>
    volume ∈ s.volumes.keys ∧ s.snapshots.Where (·.volumeId = some volume) id
  /-- A volume is where its handle says. -/
  volumeScope : ∀ id v, s.volumes.get? id = some v →
    ∃ h, Handle.decode id = .ok h ∧ v.location = some h.scope
  /-- A snapshot is where its volume is or was. -/
  snapshotScope : ∀ id n, s.snapshots.get? id = some n →
    ∃ volume h k, n.volumeId = some volume ∧ Handle.decode id = .ok h ∧
      Handle.decode volume = .ok k ∧ h.scope = k.scope ∧ n.location = some h.scope

/-! ## Numbers of ids -/

/-- An id was made from a number that has been used up. -/
def Issued (start : String) (next : Nat) (id : String) : Prop :=
  ∃ location k, k < next ∧ Handle.encode location (start ++ toString k) = .ok id

/-- All ids were made from numbers that have been used up, also those of volumes that only their
snapshots remember. -/
structure Numbered (s : Store) : Prop where
  volumes : ∀ id ∈ s.volumes.keys, Issued s.settings.volumePrefix s.nextVolume id
  snapshots : ∀ id ∈ s.snapshots.keys, Issued s.settings.snapshotPrefix s.nextSnapshot id
  sources : ∀ id volume, s.snapshots.Where (·.volumeId = some volume) id →
    Issued s.settings.volumePrefix s.nextVolume volume

theorem toString_injective {m n : Nat} (h : toString m = toString n) : m = n := by
  have hdigits : Nat.toDigits 10 m = Nat.toDigits 10 n := by
    rw [← Nat.toList_repr, ← Nat.toList_repr]
    exact congrArg String.toList h
  rw [← Nat.ofDigitChars_toDigits (n := m) (by decide) (Nat.le_refl 10), hdigits,
    Nat.ofDigitChars_toDigits (by decide) (Nat.le_refl 10)]

section

variable {start location id : String} {next : Nat}

theorem Issued.succ (h : Issued start next id) : Issued start (next + 1) id := by
  obtain ⟨location, k, hk, hid⟩ := h
  exact ⟨location, k, Nat.lt_succ_of_lt hk, hid⟩

theorem issued_self (h : Handle.encode location (start ++ toString next) = .ok id) :
    Issued start (next + 1) id :=
  ⟨location, next, Nat.lt_succ_self next, h⟩

/-- The next id is new, whatever the location. -/
theorem not_issued (h : Handle.encode location (start ++ toString next) = .ok id) :
    ¬ Issued start next id := by
  rintro ⟨other, k, hk, hid⟩
  have hparts := (Handle.decode_encode hid).symm.trans (Handle.decode_encode h)
  have hlocal := congrArg Handle.localId (Except.ok.inj hparts)
  have hnumber : k = next := toString_injective ((String.append_right_inj start).mp hlocal)
  exact absurd hk (hnumber ▸ Nat.lt_irrefl k)

end

variable {s t : Store}

theorem Change.numbered (hc : s.Change t) (h : s.Numbered) : t.Numbered := by
  cases hc with
  | kept => exact h
  | volumeNumbered =>
    exact { h with
      volumes := fun id hid => (h.volumes id hid).succ
      sources := fun id volume hn => (h.sources id volume hn).succ }
  | volumeCreated v location hid hlocation hdevice =>
    refine { h with volumes := fun id hmem => ?_, sources := ?_ }
    · rcases (Table.mem_keys_put ..).mp hmem with rfl | hold
      · exact issued_self hid
      · exact (h.volumes id hold).succ
    · exact fun id volume hn => (h.sources id volume hn).succ
  | attached v volume a hv hfree =>
    exact { h with
      volumes := fun id hmem => h.volumes id ((Table.mem_keys_put_of_get? hv _ id).mp hmem) }
  | detached v volume hv =>
    exact { h with
      volumes := fun id hmem => h.volumes id ((Table.mem_keys_put_of_get? hv _ id).mp hmem) }
  | volumeRemoved v volume hv =>
    exact { h with
      volumes := fun id hmem => h.volumes id ((Table.mem_keys_erase ..).mp hmem).2 }
  | snapshotNumbered => exact { h with snapshots := fun id hid => (h.snapshots id hid).succ }
  | snapshotCreated v volume handle n hhandle hv hid hlocation hvolume =>
    refine { h with snapshots := fun id hmem => ?_, sources := fun id source hn => ?_ }
    · rcases (Table.mem_keys_put ..).mp hmem with rfl | hold
      · exact issued_self hid
      · exact (h.snapshots id hold).succ
    · rcases (Table.where_put ..).mp hn with ⟨-, hsource⟩ | ⟨-, hold⟩
      · rw [hvolume] at hsource
        obtain rfl := Option.some.inj hsource
        exact h.volumes volume (Table.mem_keys_iff.mpr ⟨v, hv⟩)
      · exact h.sources id source hold
  | snapshotDeleted n snapshot hn =>
    exact { h with
      snapshots := fun id hmem => h.snapshots id ((Table.mem_keys_erase ..).mp hmem).2
      sources := fun id volume hw => h.sources id volume ((Table.where_erase ..).mp hw).2 }

/-! ## Indices after a change -/

theorem holds_discardAt {i : Index} {P : String → String → Prop} (h : i.Holds P)
    (key : Option String) (member : String) :
    (discardAt i key member).Holds fun k m => P k m ∧ ¬ (key = some k ∧ m = member) := by
  cases key with
  | none => exact h.congr fun k m => by simp
  | some key =>
    refine (h.discard key member).congr fun k m => ?_
    rw [Option.some.injEq, eq_comm (a := key)]

/-- Taking a record out of a table and its index. -/
theorem of_erase {α : Type} {i : Index} {t : Table α} {key : α → Option String} {name : String}
    {k? : Option String} (h : i.Of t key) (hkey : (t.get? name).bind key = k?) :
    (discardAt i k? name).Of (t.erase name) key := by
  refine (holds_discardAt h k? name).congr fun k id => ?_
  rw [Table.where_erase]
  refine ⟨fun ⟨hold, hne⟩ => ⟨fun hid => ?_, hold⟩, fun ⟨hid, hold⟩ => ⟨hold, fun he => hid he.2⟩⟩
  subst hid
  obtain ⟨r, hr, hk⟩ := hold
  rw [hr] at hkey
  exact hne ⟨hkey.symm.trans hk, rfl⟩

/-! ## Every change keeps the indices exact -/

namespace Exact

theorem new (settings : StoreSettings) (volumeType : VolumeType) :
    Exact { settings, volumeType } where
  volumes := .nil
  snapshots := .nil
  attachments := List.nodup_nil
  device _ _ := by simp [Table.Where]
  nodeVolumes := .nil (by simp [Table.Where])
  locationVolumes := .nil (by simp [Table.Where])
  locationSnapshots := .nil (by simp [Table.Where])
  volumeSnapshots := .nil (by simp [Table.Where])
  volumeScope _ _ h := by cases h
  snapshotScope _ _ h := by cases h

variable (h : s.Exact)

include h

/-- Only volumes that are there are attached. -/
theorem get?_attachments {id : String} (hid : s.volumes.get? id = none) :
    s.attachments.get? id = none := by
  cases ha : s.attachments.get? id with
  | none => rfl
  | some a =>
    have hdevice := (h.device id a.device).mpr ⟨a, ha, rfl⟩
    exact absurd hdevice (Table.not_where_of_get? hid)

theorem volumeCreated (hn : s.Numbered) {v : Volume} {location : String}
    (hid : Handle.encode location (s.settings.volumePrefix ++ toString s.nextVolume) = .ok v.id)
    (hlocation : v.location = some location) (hdevice : v.device = none) :
    ({ s with nextVolume := s.nextVolume + 1 }.insertVolume v location).Exact := by
  have hnew : v.id ∉ s.volumes.keys := fun hmem => not_issued hid (hn.volumes _ hmem)
  have hnone := Table.get?_eq_none_iff.mpr hnew
  refine { h with
    volumes := h.volumes.put rfl
    device := fun id d => ?_
    locationVolumes := h.locationVolumes.put_new hnone hlocation
    volumeSnapshots := h.volumeSnapshots.congr fun volume id => ?_
    volumeScope := fun id r hr => ?_ }
  · show (s.volumes.put v.id v).Where _ id ↔ s.attachments.Where _ id
    rw [Table.where_put, hdevice]
    by_cases heq : id = v.id
    · subst heq
      simp [Table.not_where_of_get? (h.get?_attachments hnone)]
    · simpa [heq] using h.device id d
  · refine and_congr_left fun hw => ?_
    show volume ∈ s.volumes.keys ↔ volume ∈ (s.volumes.put v.id v).keys
    rw [Table.mem_keys_put]
    refine ⟨Or.inr, ?_⟩
    rintro (rfl | hold)
    · exact absurd (hn.sources id v.id hw) (not_issued hid)
    · exact hold
  · rcases Table.get?_put_eq_some.mp hr with ⟨rfl, rfl⟩ | ⟨-, hold⟩
    · exact ⟨_, Handle.decode_encode hid, hlocation⟩
    · exact h.volumeScope id r hold

/-- Writing a volume back that differs in its device only. -/
theorem volumeIndices {v w : Volume} {volume : String} (hv : s.volumes.get? volume = some v)
    (hid : w.id = v.id) (hlocation : w.location = v.location) :
    (s.volumes.put volume w).Keyed (·.id) ∧
      (∀ id r, (s.volumes.put volume w).get? id = some r →
        ∃ k, Handle.decode id = .ok k ∧ r.location = some k.scope) ∧
      s.locationVolumes.Of (s.volumes.put volume w) (·.location) ∧
      s.volumeSnapshots.Holds fun volume' id =>
        volume' ∈ (s.volumes.put volume w).keys ∧
          s.snapshots.Where (·.volumeId = some volume') id := by
  refine ⟨h.volumes.put (hid.trans (h.volumes.ident_eq volume v hv)), fun id r hr => ?_,
    h.locationVolumes.put_same hv hlocation, h.volumeSnapshots.congr fun volume' id => ?_⟩
  · rcases Table.get?_put_eq_some.mp hr with ⟨rfl, rfl⟩ | ⟨-, hold⟩
    · rw [hlocation]
      exact h.volumeScope _ v hv
    · exact h.volumeScope id r hold
  · rw [Table.mem_keys_put_of_get? hv]

theorem attached {v : Volume} {volume : String} {a : Attachment}
    (hv : s.volumes.get? volume = some v) (hfree : s.attachments.get? volume = none) :
    (s.link v volume a).Exact := by
  obtain ⟨hvolumes, hscope, hlocations, hsnapshots⟩ :=
    h.volumeIndices hv (w := { v with device := some a.device }) rfl rfl
  refine { h with
    volumes := hvolumes
    attachments := Table.nodup_keys_put h.attachments volume a
    device := fun id d => ?_
    nodeVolumes := h.nodeVolumes.put_new hfree rfl
    locationVolumes := hlocations
    volumeSnapshots := hsnapshots
    volumeScope := hscope }
  show (s.volumes.put volume _).Where _ id ↔ (s.attachments.put volume a).Where _ id
  rw [Table.where_put, Table.where_put, h.device, Option.some.injEq]

theorem detached {v : Volume} {volume : String} (hv : s.volumes.get? volume = some v) :
    Exact
      { s with
        volumes := s.volumes.put volume { v with device := none }
        attachments := s.attachments.erase volume
        nodeVolumes := discardAt s.nodeVolumes (s.holder volume) volume } := by
  obtain ⟨hvolumes, hscope, hlocations, hsnapshots⟩ :=
    h.volumeIndices hv (w := { v with device := none }) rfl rfl
  refine { h with
    volumes := hvolumes
    attachments := Table.nodup_keys_erase h.attachments volume
    device := fun id d => ?_
    nodeVolumes := of_erase h.nodeVolumes Option.map_eq_bind.symm
    locationVolumes := hlocations
    volumeSnapshots := hsnapshots
    volumeScope := hscope }
  show (s.volumes.put volume _).Where _ id ↔ (s.attachments.erase volume).Where _ id
  rw [Table.where_put, Table.where_erase, h.device]
  simp

theorem volumeRemoved {v : Volume} {volume : String} (hv : s.volumes.get? volume = some v) :
    Exact
      { s with
        volumes := s.volumes.erase volume
        attachments := s.attachments.erase volume
        nodeVolumes := discardAt s.nodeVolumes (s.holder volume) volume
        locationVolumes := discardAt s.locationVolumes v.location volume
        volumeSnapshots := s.volumeSnapshots.erase volume } := by
  refine { h with
    volumes := h.volumes.erase volume
    attachments := Table.nodup_keys_erase h.attachments volume
    device := fun id d => ?_
    nodeVolumes := of_erase h.nodeVolumes Option.map_eq_bind.symm
    locationVolumes := of_erase h.locationVolumes (by rw [hv]; rfl)
    volumeSnapshots := (h.volumeSnapshots.erase volume).congr fun volume' id => ?_
    volumeScope := fun id r hr => h.volumeScope id r (Table.get?_erase_eq_some.mp hr).2 }
  · show (s.volumes.erase volume).Where _ id ↔ (s.attachments.erase volume).Where _ id
    rw [Table.where_erase, Table.where_erase, h.device]
  · rw [Table.mem_keys_erase, and_right_comm, and_comm (a := volume' ∈ _)]

/-- The snapshots of a volume are made where its handle says. -/
theorem snapshotLocation_eq {v : Volume} {volume : String} {handle : Handle}
    (hhandle : Handle.decode volume = .ok handle) (hv : s.volumes.get? volume = some v) :
    snapshotLocation v handle = handle.scope := by
  obtain ⟨k, hk, hvlocation⟩ := h.volumeScope volume v hv
  rw [hhandle] at hk
  obtain rfl := Except.ok.inj hk
  rw [snapshotLocation, hvlocation]
  exact ite_self _

theorem snapshotCreated (hn : s.Numbered) {v : Volume} {volume : String} {handle : Handle}
    {n : Snapshot} (hhandle : Handle.decode volume = .ok handle)
    (hv : s.volumes.get? volume = some v)
    (hid : Handle.encode (snapshotLocation v handle)
      (s.settings.snapshotPrefix ++ toString s.nextSnapshot) = .ok n.id)
    (hlocation : n.location = some (snapshotLocation v handle))
    (hvolume : n.volumeId = some volume) :
    ({ s with nextSnapshot := s.nextSnapshot + 1 }.insertSnapshot n
      (snapshotLocation v handle) volume).Exact := by
  have hnew : n.id ∉ s.snapshots.keys := fun hmem => not_issued hid (hn.snapshots _ hmem)
  have hnone := Table.get?_eq_none_iff.mpr hnew
  have hstored : volume ∈ s.volumes.keys := Table.mem_keys_iff.mpr ⟨v, hv⟩
  have hscope := h.snapshotLocation_eq hhandle hv
  refine { h with
    snapshots := h.snapshots.put rfl
    locationSnapshots := h.locationSnapshots.put_new hnone hlocation
    volumeSnapshots := (h.volumeSnapshots.add volume n.id).congr fun volume' id => ?_
    snapshotScope := fun id r hr => ?_ }
  · show _ ↔ volume' ∈ s.volumes.keys ∧ (s.snapshots.put n.id n).Where _ id
    rw [Table.where_put, hvolume, Option.some.injEq, eq_comm (a := volume)]
    by_cases heq : id = n.id
    · subst heq
      have hno := Table.not_where_of_get? (P := (·.volumeId = some volume')) hnone
      simp only [hno, and_false, false_or, and_true, true_and, ne_eq, not_true, or_false]
      exact ⟨fun he => ⟨he ▸ hstored, he⟩, And.right⟩
    · simp [heq]
  · rcases Table.get?_put_eq_some.mp hr with ⟨rfl, rfl⟩ | ⟨-, hold⟩
    · exact ⟨volume, _, handle, hvolume, Handle.decode_encode hid, hhandle, hscope, hlocation⟩
    · exact h.snapshotScope id r hold

theorem snapshotDeleted {n : Snapshot} {snapshot : String}
    (hn : s.snapshots.get? snapshot = some n) :
    Exact
      { s with
        snapshots := s.snapshots.erase snapshot
        locationSnapshots := discardAt s.locationSnapshots n.location snapshot
        volumeSnapshots := discardAt s.volumeSnapshots n.volumeId snapshot } := by
  refine { h with
    snapshots := h.snapshots.erase snapshot
    locationSnapshots := of_erase h.locationSnapshots (by rw [hn]; rfl)
    volumeSnapshots :=
      (holds_discardAt h.volumeSnapshots n.volumeId snapshot).congr fun volume id => ?_
    snapshotScope := fun id r hr => h.snapshotScope id r (Table.get?_erase_eq_some.mp hr).2 }
  rw [and_assoc, Table.where_erase]
  refine and_congr_right' ?_
  rw [and_comm]
  refine and_congr_left fun hw => not_congr ⟨And.right, fun heq => ⟨?_, heq⟩⟩
  subst heq
  exact (Table.where_of_get? hn).mp hw

end Exact

theorem Change.exact (hc : s.Change t) (hn : s.Numbered) (h : s.Exact) : t.Exact := by
  cases hc with
  | kept => exact h
  | volumeNumbered => exact { h with }
  | volumeCreated v location hid hlocation hdevice => exact h.volumeCreated hn hid hlocation hdevice
  | attached v volume a hv hfree => exact h.attached hv hfree
  | detached v volume hv => exact h.detached hv
  | volumeRemoved v volume hv => exact h.volumeRemoved hv
  | snapshotNumbered => exact { h with }
  | snapshotCreated v volume handle n hhandle hv hid hlocation hvolume =>
    exact h.snapshotCreated hn hhandle hv hid hlocation hvolume
  | snapshotDeleted n snapshot hdeleted => exact h.snapshotDeleted hdeleted

/-! ## Runs from a new store -/

theorem Numbered.new (settings : StoreSettings) (volumeType : VolumeType) :
    Numbered { settings, volumeType } where
  volumes _ h := by cases h
  snapshots _ h := by cases h
  sources _ _ h := by simp [Table.Where] at h

theorem new_eq_ok {settings : StoreSettings} (h : Store.new settings = .ok s) :
    ∃ volumeType, s = { settings, volumeType } := by
  rw [Store.new] at h
  split at h
  · next volumeType _ => exact ⟨volumeType, (Except.ok.inj h).symm⟩
  · cases h

theorem run_new {settings : StoreSettings} (h : Store.new settings = .ok s)
    (ops : List (Except Fault Timestamp × Operation)) :
    (s.run ops).Numbered ∧ (s.run ops).Exact := by
  obtain ⟨volumeType, rfl⟩ := new_eq_ok h
  refine run_induct (P := fun s => s.Numbered ∧ s.Exact)
    ⟨.new settings volumeType, .new settings volumeType⟩ ?_ ops
  rintro s t ⟨hn, h⟩ hc
  exact ⟨hc.numbered hn, hc.exact hn h⟩

end BlockStorage.Store
