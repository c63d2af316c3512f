import BlockStorage.Proofs.Store.Exact

/-!
# Stores that are alike

A table is a map and an index a map of sets; the order in which entries were first
written is of no account. Two stores are alike if they hold the same under the same
keys and will give the same numbers next.

The indices of an exact store are determined by its tables, so exact stores need to
be compared in their tables only.

* `Table.SameAs`, `Index.SameAs`: the same map, the same map of sets.
* `Store.Alike`: the same store, up to the order of entries.
* `Store.Exact.alike`: exact stores with the same tables are alike.
-/

namespace BlockStorage

/-- The same map: reading any name sees the same. -/
def Table.SameAs {α : Type} (t u : Table α) : Prop := ∀ name, t.get? name = u.get? name

namespace Table.SameAs

variable {α : Type} {t u : Table α}

theorem mem_keys (h : t.SameAs u) (name : String) : name ∈ t.keys ↔ name ∈ u.keys := by
  rw [mem_keys_iff, mem_keys_iff, h name]

theorem where_iff (h : t.SameAs u) (P : α → Prop) (name : String) :
    t.Where P name ↔ u.Where P name := by
  rw [Where, Where, h name]

end Table.SameAs

/-- The same map of sets: the same keys, and under each of them the same members. -/
def Index.SameAs (i j : Index) : Prop :=
  ∀ key, Option.Rel List.Perm (Table.get? i key) (Table.get? j key)

namespace Index

variable {i j : Index} {P : String → String → Prop}

/-- No key of an index is without a member. -/
theorem Holds.exists_of_get? (h : i.Holds P) {key : String} {ms : List String}
    (hms : Table.get? i key = some ms) : ∃ m, P key m := by
  obtain ⟨m, rest, rfl⟩ := List.exists_cons_of_ne_nil (h.sets key ms hms).1
  refine ⟨m, (h.mem key m).mp ?_⟩
  rw [members_of_get? hms]
  exact List.mem_cons_self

/-- There are no members under an unknown key. -/
theorem Holds.not_of_get? (h : i.Holds P) {key : String} (hnone : Table.get? i key = none)
    (m : String) : ¬ P key m := by
  rw [← h.mem, members, hnone]
  exact List.not_mem_nil

/-- **An index is determined by the relation that it holds.** -/
theorem Holds.sameAs (hi : i.Holds P) (hj : j.Holds P) : i.SameAs j := by
  intro key
  cases hms : Table.get? i key with
  | none =>
    cases hns : Table.get? j key with
    | none => exact .none
    | some ns =>
      obtain ⟨m, hm⟩ := hj.exists_of_get? hns
      exact absurd hm (hi.not_of_get? hms m)
  | some ms =>
    cases hns : Table.get? j key with
    | none =>
      obtain ⟨m, hm⟩ := hi.exists_of_get? hms
      exact absurd hm (hj.not_of_get? hns m)
    | some ns =>
      refine .some ?_
      refine (List.perm_ext_iff_of_nodup (hi.sets key ms hms).2 (hj.sets key ns hns).2).mpr ?_
      intro m
      rw [← members_of_get? hms, ← members_of_get? hns, hi.mem, hj.mem]

/-- Indices of the same table are the same. -/
theorem Of.sameAs {α : Type} {t u : Table α} {key : α → Option String} (hi : i.Of t key)
    (hj : j.Of u key) (h : t.SameAs u) : i.SameAs j :=
  Holds.sameAs hi (Holds.congr hj fun _ id => (h.where_iff _ id).symm)

end Index

namespace Store

variable {s t : Store}

/-- The same settings, and the same numbers to be given next. -/
structure SameSeries (s t : Store) : Prop where
  settings : s.settings = t.settings
  volumeType : s.volumeType = t.volumeType
  nextVolume : s.nextVolume = t.nextVolume
  nextSnapshot : s.nextSnapshot = t.nextSnapshot

theorem SameSeries.refl (s : Store) : s.SameSeries s := ⟨rfl, rfl, rfl, rfl⟩

theorem SameSeries.symm (h : s.SameSeries t) : t.SameSeries s :=
  ⟨h.settings.symm, h.volumeType.symm, h.nextVolume.symm, h.nextSnapshot.symm⟩

theorem SameSeries.trans {u : Store} (h : s.SameSeries t) (h' : t.SameSeries u) :
    s.SameSeries u :=
  ⟨h.settings.trans h'.settings, h.volumeType.trans h'.volumeType,
    h.nextVolume.trans h'.nextVolume, h.nextSnapshot.trans h'.nextSnapshot⟩

/-- The same store, up to the order of entries: the same records and attachments under their ids,
the same members under the keys of every index, and the same numbers to be given next. -/
structure Alike (s t : Store) : Prop extends SameSeries s t where
  volumes : s.volumes.SameAs t.volumes
  snapshots : s.snapshots.SameAs t.snapshots
  attachments : s.attachments.SameAs t.attachments
  nodeVolumes : s.nodeVolumes.SameAs t.nodeVolumes
  locationVolumes : s.locationVolumes.SameAs t.locationVolumes
  locationSnapshots : s.locationSnapshots.SameAs t.locationSnapshots
  volumeSnapshots : s.volumeSnapshots.SameAs t.volumeSnapshots

/-- **Exact stores with the same tables are alike**: the indices follow. -/
theorem Exact.alike (hs : s.Exact) (ht : t.Exact) (hseries : s.SameSeries t)
    (hvolumes : s.volumes.SameAs t.volumes) (hsnapshots : s.snapshots.SameAs t.snapshots)
    (hattachments : s.attachments.SameAs t.attachments) : s.Alike t where
  toSameSeries := hseries
  volumes := hvolumes
  snapshots := hsnapshots
  attachments := hattachments
  nodeVolumes := hs.nodeVolumes.sameAs ht.nodeVolumes hattachments
  locationVolumes := hs.locationVolumes.sameAs ht.locationVolumes hvolumes
  locationSnapshots := hs.locationSnapshots.sameAs ht.locationSnapshots hsnapshots
  volumeSnapshots := hs.volumeSnapshots.sameAs <| ht.volumeSnapshots.congr fun volume id =>
    and_congr (hvolumes.mem_keys volume).symm (hsnapshots.where_iff _ id).symm

end Store

end BlockStorage
