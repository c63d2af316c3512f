import BlockStorage.Proofs.Store.Exact

/-!
# Stores whose tables and indices agree

An exact store is more than what a look at any two of its parts can tell. Here
the parts are any tables and any indices, also those that no operation leaves
behind, and each is compared with the others.

* `Store.Tabular`: the parts are maps, and the records stand under their ids.
* `Store.Agreeing`: the attachments, the nodes and the locations are exact, and
  a volume lists no snapshots but its own.
* `Store.Remembers`: a volume that is there lists all of its snapshots.
* `Store.Exact.tabular`, `Store.Exact.agreeing`, `Store.Exact.remembers`: exact
  stores are all of this.
-/

namespace BlockStorage

/-! ## Maps of sets -/

/-- Every key stands once, and every member once under its key. -/
structure Index.IsMap (i : Index) : Prop where
  keys : (Table.keys i).Nodup
  sets : ∀ key ms, Table.get? i key = some ms → ms.Nodup

namespace Index

variable {i : Index}

theorem Holds.isMap {P : String → String → Prop} (h : i.Holds P) : i.IsMap :=
  ⟨h.keys, fun key ms hms => (h.sets key ms hms).2⟩

namespace IsMap

variable (h : i.IsMap)

include h

theorem nodup (key : String) : (i.members key).Nodup := by
  cases hms : Table.get? i key with
  | none =>
    rw [members, hms]
    exact List.nodup_nil
  | some ms =>
    rw [members_of_get? hms]
    exact h.sets key ms hms

theorem mem_members {key m : String} : m ∈ i.members key ↔ ∃ ms, (key, ms) ∈ i ∧ m ∈ ms := by
  constructor
  · intro hm
    cases hms : Table.get? i key with
    | none =>
      rw [members, hms] at hm
      exact absurd hm List.not_mem_nil
    | some ms =>
      rw [members_of_get? hms] at hm
      exact ⟨ms, (Table.mem_iff_get? h.keys).mpr hms, hm⟩
  · rintro ⟨ms, hmem, hm⟩
    rw [members_of_get? ((Table.mem_iff_get? h.keys).mp hmem)]
    exact hm

theorem forall_mem_iff {P : String → String → Prop} :
    (∀ e ∈ i, ∀ m ∈ e.2, P e.1 m) ↔ ∀ key m, m ∈ i.members key → P key m := by
  constructor
  · intro hall key m hm
    obtain ⟨ms, he, hm⟩ := h.mem_members.mp hm
    exact hall (key, ms) he m hm
  · exact fun hall e he m hm => hall e.1 m (h.mem_members.mpr ⟨e.2, he, hm⟩)

end IsMap

end Index

namespace Store

/-! ## Agreement -/

/-- Whatever the tables and the indices hold: every table is a map, every index a map of sets, and
the records of the two main tables stand under their ids. -/
structure Tabular (s : Store) : Prop where
  volumes : s.volumes.Keyed (·.id)
  snapshots : s.snapshots.Keyed (·.id)
  attachments : s.attachments.keys.Nodup
  nodeVolumes : s.nodeVolumes.IsMap
  locationVolumes : s.locationVolumes.IsMap
  locationSnapshots : s.locationSnapshots.IsMap
  volumeSnapshots : s.volumeSnapshots.IsMap

/-- The tables agree with each other, and the indices with them, except that a volume may have
forgotten some of its snapshots. -/
structure Agreeing (s : Store) : Prop where
  /-- A volume has a device exactly if it is attached by it, and nothing else is attached. -/
  device : ∀ id d, s.volumes.Where (·.device = some d) id ↔ s.attachments.Where (·.device = d) id
  nodeVolumes : s.nodeVolumes.Of s.attachments (some ·.node)
  locationVolumes : ∀ location id,
    id ∈ s.locationVolumes.members location ↔ s.volumes.Where (·.location = some location) id
  locationSnapshots : ∀ location id,
    id ∈ s.locationSnapshots.members location ↔ s.snapshots.Where (·.location = some location) id
  /-- Only volumes that are there have an entry, and only their own snapshots are in it. -/
  volumeSnapshots : ∀ e ∈ s.volumeSnapshots,
    e.1 ∈ s.volumes.keys ∧ ∀ id ∈ e.2, s.snapshots.Where (·.volumeId = some e.1) id
  /-- A volume is where its handle says. -/
  volumeScope : ∀ id v, s.volumes.get? id = some v →
    ∃ h, Handle.decode id = .ok h ∧ v.location = some h.scope
  /-- A snapshot is of the scope of its volume, wherever it is. -/
  snapshotScope : ∀ id n, s.snapshots.get? id = some n →
    ∃ volume location h k, n.volumeId = some volume ∧ n.location = some location ∧
      Handle.decode id = .ok h ∧ Handle.decode volume = .ok k ∧ h.scope = k.scope

/-- No snapshot is missing where a volume that is there lists its own. -/
def Remembers (s : Store) (volume : String) : Prop :=
  volume ∈ s.volumes.keys → ∀ id, s.snapshots.Where (·.volumeId = some volume) id →
    id ∈ s.volumeSnapshots.members volume

namespace Exact

variable {s : Store} (h : s.Exact)

include h

theorem tabular : s.Tabular where
  volumes := h.volumes
  snapshots := h.snapshots
  attachments := h.attachments
  nodeVolumes := Index.Holds.isMap h.nodeVolumes
  locationVolumes := Index.Holds.isMap h.locationVolumes
  locationSnapshots := Index.Holds.isMap h.locationSnapshots
  volumeSnapshots := h.volumeSnapshots.isMap

theorem agreeing : s.Agreeing where
  device := h.device
  nodeVolumes := h.nodeVolumes
  locationVolumes := h.locationVolumes.mem
  locationSnapshots := h.locationSnapshots.mem
  volumeScope := h.volumeScope
  snapshotScope id n hn := by
    obtain ⟨volume, k, l, hvolume, hk, hl, hscope, hlocation⟩ := h.snapshotScope id n hn
    exact ⟨volume, k.scope, k, l, hvolume, hlocation, hk, hl, hscope⟩
  volumeSnapshots := by
    rintro ⟨volume, ids⟩ he
    have hget := (Table.mem_iff_get? h.volumeSnapshots.keys).mp he
    have hmem : ∀ id ∈ ids,
        volume ∈ s.volumes.keys ∧ s.snapshots.Where (·.volumeId = some volume) id := by
      intro id hid
      rw [← h.volumeSnapshots.mem, Index.members_of_get? hget]
      exact hid
    refine ⟨?_, fun id hid => (hmem id hid).2⟩
    obtain ⟨id, hid⟩ := List.exists_mem_of_ne_nil ids (h.volumeSnapshots.sets volume ids hget).1
    exact (hmem id hid).1

theorem remembers (volume : String) : s.Remembers volume :=
  fun hvolume id hid => (h.volumeSnapshots.mem volume id).mpr ⟨hvolume, hid⟩

end Exact

end Store

end BlockStorage
