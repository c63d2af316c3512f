import BlockStorage.Proofs.Store.Agreement

/-!
# What lists answer

A store answers a list from an index, and looks every member up. Where indices
and tables agree that is the same as going through the main table, up to the
order.

* `Store.SameRecords`: two answers hold the same records, or are the same fault.
* `Store.Listing`: every list is what going through the tables would find.
* `Store.ListingBut`: every list is, but for the snapshots of some volumes.
* `Store.Agreeing.listing`: agreeing stores answer so, but for volumes that have
  forgotten a snapshot.
* `Store.Exact.listing`: exact stores answer every list so.
-/

namespace BlockStorage

/-! ## Distinct records -/

section

variable {α : Type} [BEq α] {as : List α}

theorem distinct_eq_self (h : as.Pairwise fun a b => (b == a) = false) : distinct as = as := by
  have hfold : ∀ seen, (seen ++ as).Pairwise (fun a b => (b == a) = false) →
      as.foldl (fun seen a => if seen.contains a then seen else seen ++ [a]) seen = seen ++ as := by
    clear h
    induction as with
    | nil => exact fun seen _ => (List.append_nil seen).symm
    | cons a as ih =>
      intro seen hseen
      have hfresh : seen.contains a = false := by
        rw [List.contains_eq_any_beq, List.any_eq_false]
        intro b hb
        rw [(List.pairwise_append.mp hseen).2.2 b hb a List.mem_cons_self]
        exact Bool.false_ne_true
      rw [List.foldl_cons, hfresh, if_neg Bool.false_ne_true, ih, List.append_assoc,
        List.singleton_append]
      rw [List.append_assoc, List.singleton_append]
      exact hseen
  exact hfold [] h

end

theorem Volume.beq_eq_false {v w : Volume} (h : v.id ≠ w.id) : (v == w) = false := by
  have hid : (v.id == w.id) = false := beq_eq_false_iff_ne.mpr h
  simp only [BEq.beq, instBEqVolume.beq] at hid ⊢
  rw [hid]
  rfl

theorem Snapshot.beq_eq_false {n m : Snapshot} (h : n.id ≠ m.id) : (n == m) = false := by
  have hid : (n.id == m.id) = false := beq_eq_false_iff_ne.mpr h
  simp only [BEq.beq, instBEqSnapshot.beq] at hid ⊢
  rw [hid]
  rfl

namespace Store

/-! ## Looking up -/

section

variable {α : Type} [BEq α] {t : Table α} {ident : α → String} {ids : List String}

omit [BEq α] in
theorem mapM_eq_ok {β ε : Type} {f : β → Except ε α} {g : β → Option α} {bs : List β}
    (h : ∀ b ∈ bs, ∃ a, g b = some a ∧ f b = .ok a) : bs.mapM f = .ok (bs.filterMap g) := by
  induction bs with
  | nil => rfl
  | cons b bs ih =>
    obtain ⟨a, hg, hf⟩ := h b List.mem_cons_self
    rw [List.mapM_cons, ih fun other hmem => h other (List.mem_cons_of_mem b hmem),
      List.filterMap_cons, hg, hf]
    rfl

theorem lookUp_eq_ok (h : ∀ id ∈ ids, id ∈ t.keys) :
    lookUp t ids = .ok (distinct (ids.filterMap t.get?)) := by
  rw [lookUp, mapM_eq_ok fun id hid => ?_]
  · rfl
  · obtain ⟨a, ha⟩ := Table.mem_keys_iff.mp (h id hid)
    rw [ha]
    exact ⟨a, rfl, rfl⟩

/-- Looking the members of an index up finds the records that they were indexed for. -/
theorem lookUp_perm (hbeq : ∀ a b, ident a ≠ ident b → (a == b) = false) (ht : t.Keyed ident)
    (hids : ids.Nodup) {p : α → Bool} (hmem : ∀ id, id ∈ ids ↔ t.Where (p · = true) id) :
    ∃ rs, lookUp t ids = .ok rs ∧ rs.Perm (t.values.filter p) := by
  have hkeys : ∀ id ∈ ids, id ∈ t.keys := fun id hid => by
    obtain ⟨a, ha, -⟩ := (hmem id).mp hid
    exact Table.mem_keys_iff.mpr ⟨a, ha⟩
  have hpairwise : (ids.filterMap t.get?).Pairwise fun a b => ident a ≠ ident b := by
    refine List.pairwise_filterMap.mpr (hids.imp fun {i j} hij a ha b hb => ?_)
    rw [ht.ident_eq i a ha, ht.ident_eq j b hb]
    exact hij
  refine ⟨ids.filterMap t.get?, ?_, ?_⟩
  · rw [lookUp_eq_ok hkeys, distinct_eq_self (hpairwise.imp fun hne => hbeq _ _ hne.symm)]
  · refine (List.perm_ext_iff_of_nodup (hpairwise.imp fun hne heq => hne (congrArg ident heq))
      ((ht.pairwise_values.filter p).imp fun hne heq => hne (congrArg ident heq))).mpr fun a => ?_
    rw [List.mem_filterMap, List.mem_filter, ht.mem_values]
    constructor
    · rintro ⟨id, hid, ha⟩
      rw [ht.ident_eq id a ha]
      exact ⟨ha, (Table.where_of_get? ha).mp ((hmem id).mp hid)⟩
    · rintro ⟨ha, hp⟩
      exact ⟨ident a, (hmem (ident a)).mpr ⟨a, ha, hp⟩, ha⟩

end

/-! ## Lists -/

/-- Two answers hold the same records in some order, or are the same fault. -/
inductive SameRecords {α : Type} : Except Fault (List α) → Except Fault (List α) → Prop
  | ok {as bs : List α} (h : as.Perm bs) : SameRecords (.ok as) (.ok bs)
  | error (f : Fault) : SameRecords (.error f) (.error f)

theorem SameRecords.withHandle {α : Type} {answer expected : Except Fault (List α)}
    (h : SameRecords answer expected) (handle : String) :
    SameRecords (withHandle handle answer) (withHandle handle expected) := by
  rw [Store.withHandle, Store.withHandle]
  split
  · exact .error _
  · exact h

theorem SameRecords.perm {α : Type} {answer : Except Fault (List α)} {as bs : List α}
    (ha : SameRecords answer (.ok as)) (hb : SameRecords answer (.ok bs)) : as.Perm bs := by
  cases ha with
  | ok ha =>
    cases hb with
    | ok hb => exact ha.symm.trans hb

/-- Every list is what going through the tables would find. Only a malformed handle is refused. A
volume that is gone has no snapshots, although they are still there. -/
structure Listing (s : Store) : Prop where
  volumes : ∀ now, (s.perform now .listVolumes).answer = .ok s.volumes.values
  volumesIn : ∀ now location, SameRecords (s.perform now (.listVolumesIn location)).answer
    (.ok (s.volumes.values.filter fun v => v.location = some location))
  volumesOf : ∀ now node, SameRecords (s.perform now (.listVolumesOf node)).answer
    (withHandle node (.ok (s.volumes.values.filter fun v => s.holder v.id = some node)))
  snapshots : ∀ now, (s.perform now .listSnapshots).answer = .ok s.snapshots.values
  snapshotsIn : ∀ now location, SameRecords (s.perform now (.listSnapshotsIn location)).answer
    (.ok (s.snapshots.values.filter fun n => n.location = some location))
  snapshotsOf : ∀ now volume, SameRecords (s.perform now (.listSnapshotsOf volume)).answer
    (withHandle volume (.ok (s.snapshots.values.filter fun n =>
      n.volumeId = some volume ∧ volume ∈ s.volumes.keys)))

/-- Every list is what going through the tables would find, and that of the snapshots of a volume
exactly if the volume satisfies `P`. -/
structure ListingBut (s : Store) (P : String → Prop) : Prop where
  volumes : ∀ now, (s.perform now .listVolumes).answer = .ok s.volumes.values
  volumesIn : ∀ now location, SameRecords (s.perform now (.listVolumesIn location)).answer
    (.ok (s.volumes.values.filter fun v => v.location = some location))
  volumesOf : ∀ now node, SameRecords (s.perform now (.listVolumesOf node)).answer
    (withHandle node (.ok (s.volumes.values.filter fun v => s.holder v.id = some node)))
  snapshots : ∀ now, (s.perform now .listSnapshots).answer = .ok s.snapshots.values
  snapshotsIn : ∀ now location, SameRecords (s.perform now (.listSnapshotsIn location)).answer
    (.ok (s.snapshots.values.filter fun n => n.location = some location))
  snapshotsOf : ∀ now volume, SameRecords (s.perform now (.listSnapshotsOf volume)).answer
    (withHandle volume (.ok (s.snapshots.values.filter fun n =>
      n.volumeId = some volume ∧ volume ∈ s.volumes.keys))) ↔ P volume

variable {s : Store}

theorem ListingBut.listing_iff {P : String → Prop} (h : s.ListingBut P) :
    s.Listing ↔ ∀ volume, P volume := by
  constructor
  · exact fun hlisting volume => (h.snapshotsOf (.error .aborted) volume).mp
      (hlisting.snapshotsOf _ volume)
  · exact fun hP =>
      { h with snapshotsOf := fun now volume => (h.snapshotsOf now volume).mpr (hP _) }

theorem lookUp_volumes (h : s.volumes.Keyed (·.id)) {ids : List String} {p : Volume → Bool}
    (hids : ids.Nodup) (hmem : ∀ id, id ∈ ids ↔ s.volumes.Where (p · = true) id) :
    SameRecords (lookUp s.volumes ids) (.ok (s.volumes.values.filter p)) := by
  obtain ⟨rs, hrs, hperm⟩ := lookUp_perm (fun _ _ => Volume.beq_eq_false) h hids hmem
  rw [hrs]
  exact .ok hperm

theorem lookUp_snapshots (h : s.snapshots.Keyed (·.id)) {ids : List String} {p : Snapshot → Bool}
    (hids : ids.Nodup) (hmem : ∀ id, id ∈ ids ↔ s.snapshots.Where (p · = true) id) :
    SameRecords (lookUp s.snapshots ids) (.ok (s.snapshots.values.filter p)) := by
  obtain ⟨rs, hrs, hperm⟩ := lookUp_perm (fun _ _ => Snapshot.beq_eq_false) h hids hmem
  rw [hrs]
  exact .ok hperm

namespace Agreeing

variable (h : s.Agreeing)

include h

/-- The node index finds volumes that are there. -/
theorem where_holder (ht : s.Tabular) (node id : String) :
    id ∈ s.nodeVolumes.members node ↔
      s.volumes.Where (fun v => decide (s.holder v.id = some node) = true) id := by
  rw [h.nodeVolumes.mem]
  constructor
  · rintro ⟨a, ha, hnode⟩
    obtain ⟨v, hv, -⟩ := (h.device id a.device).mpr ⟨a, ha, rfl⟩
    refine ⟨v, hv, decide_eq_true ?_⟩
    rw [ht.volumes.ident_eq id v hv, holder, ha]
    exact hnode
  · rintro ⟨v, hv, hnode⟩
    rw [ht.volumes.ident_eq id v hv] at hnode
    obtain ⟨a, ha, rfl⟩ := Option.map_eq_some_iff.mp (of_decide_eq_true hnode)
    exact ⟨a, ha, rfl⟩

/-- The index of snapshots finds volumes that are there, and snapshots of them. -/
theorem where_source (ht : s.Tabular) {volume id : String}
    (hid : id ∈ s.volumeSnapshots.members volume) :
    volume ∈ s.volumes.keys ∧ s.snapshots.Where (·.volumeId = some volume) id := by
  obtain ⟨ids, hentry, hid⟩ := ht.volumeSnapshots.mem_members.mp hid
  obtain ⟨hvolume, hsources⟩ := h.volumeSnapshots _ hentry
  exact ⟨hvolume, hsources id hid⟩

/-- A volume lists what going through the snapshots would find exactly if it remembers them all. -/
theorem snapshotsOf_iff (ht : s.Tabular) (volume : String) :
    SameRecords (withHandle volume (lookUp s.snapshots (s.volumeSnapshots.members volume)))
      (withHandle volume (.ok (s.snapshots.values.filter fun n =>
        n.volumeId = some volume ∧ volume ∈ s.volumes.keys))) ↔ s.Remembers volume := by
  have hnodup := ht.volumeSnapshots.nodup volume
  constructor
  · rintro hsame hvolume id ⟨n, hn, hsource⟩
    -- The members are looked up as what they are, to be compared with what they should be.
    have hanswer := lookUp_snapshots ht.snapshots hnodup
      (p := fun n => decide (n.id ∈ s.volumeSnapshots.members volume)) fun id => by
        refine ⟨fun hid => ?_, fun ⟨n, hn, hid⟩ => ?_⟩
        · obtain ⟨n, hn, -⟩ := (h.where_source ht hid).2
          exact ⟨n, hn, decide_eq_true ((ht.snapshots.ident_eq id n hn).symm ▸ hid)⟩
        · exact ht.snapshots.ident_eq id n hn ▸ of_decide_eq_true hid
    obtain ⟨v, hv⟩ := Table.mem_keys_iff.mp hvolume
    obtain ⟨k, hk, -⟩ := h.volumeScope volume v hv
    rw [withHandle, withHandle, hk] at hsame
    have hfound : n ∈ s.snapshots.values.filter fun n =>
        n.volumeId = some volume ∧ volume ∈ s.volumes.keys :=
      List.mem_filter.mpr ⟨(Table.mem_values ht.snapshots.nodup).mpr ⟨id, hn⟩,
        decide_eq_true ⟨hsource, hvolume⟩⟩
    have hlisted := List.mem_filter.mp ((hsame.perm hanswer).mem_iff.mp hfound)
    exact ht.snapshots.ident_eq id n hn ▸ of_decide_eq_true hlisted.2
  · intro hremembers
    refine (lookUp_snapshots ht.snapshots hnodup fun id => ?_).withHandle volume
    constructor
    · intro hid
      obtain ⟨hvolume, n, hn, hsource⟩ := h.where_source ht hid
      exact ⟨n, hn, decide_eq_true ⟨hsource, hvolume⟩⟩
    · rintro ⟨n, hn, hp⟩
      obtain ⟨hsource, hvolume⟩ := of_decide_eq_true hp
      exact hremembers hvolume id ⟨n, hn, hsource⟩

/-- **In an agreeing store every list is what going through the tables would find**, but for the
snapshots of a volume that has forgotten some. -/
theorem listing (ht : s.Tabular) : s.ListingBut s.Remembers where
  volumes _ := congrArg Except.ok
    (distinct_eq_self (ht.volumes.pairwise_values.imp fun hne => Volume.beq_eq_false hne.symm))
  volumesIn _ location := by
    refine lookUp_volumes ht.volumes (ht.locationVolumes.nodup location) fun id => ?_
    simpa using h.locationVolumes location id
  volumesOf _ node := (lookUp_volumes ht.volumes (ht.nodeVolumes.nodup node)
    (h.where_holder ht node)).withHandle node
  snapshots _ := congrArg Except.ok
    (distinct_eq_self (ht.snapshots.pairwise_values.imp fun hne => Snapshot.beq_eq_false hne.symm))
  snapshotsIn _ location := by
    refine lookUp_snapshots ht.snapshots (ht.locationSnapshots.nodup location) fun id => ?_
    simpa using h.locationSnapshots location id
  snapshotsOf _ volume := h.snapshotsOf_iff ht volume

end Agreeing

/-- **In an exact store every list is what going through the tables would find.** -/
theorem Exact.listing (h : s.Exact) : s.Listing :=
  (h.agreeing.listing h.tabular).listing_iff.mpr h.remembers

end Store

end BlockStorage
