import BlockStorage.Proofs.Store.Listing
import BlockStorage.Proofs.Store.Records
import BlockStorage.Store.Consistency

/-!
# What an empty report says

The consistency check goes through every index entry and every record. Each of
its parts finds nothing exactly if one thing holds of the tables and indices,
whatever they are, and together that is agreement.

No part looks for the snapshots of a volume in the index that should list them:
the report stays empty when one of them is missing there.

* `Store.consistencyErrors_eq_ok_nil_iff`: there is nothing to say exactly about
  agreeing stores.
* `Store.report_complete`: what lists then answer.
* `Store.Forgetting.silent`: a store that has forgotten a snapshot, and a check
  that does not tell.
-/

namespace BlockStorage

theorem Table.forall_mem_iff {α : Type} {t : Table α} (h : t.keys.Nodup) {P : String → α → Prop} :
    (∀ e ∈ t, P e.1 e.2) ↔ ∀ name a, t.get? name = some a → P name a :=
  ⟨fun hall name a ha => hall (name, a) ((mem_iff_get? h).mpr ha),
    fun hall _ he => hall _ _ ((mem_iff_get? h).mp he)⟩

theorem Table.any_get?_iff {α : Type} {t : Table α} {name : String} {p : α → Bool} :
    (t.get? name).any p = true ↔ t.Where (p · = true) name := by
  rw [Option.any_eq_true]
  rfl

namespace Store

variable {s : Store}

theorem nodeErrors_eq_nil_iff :
    s.nodeErrors = [] ↔ ∀ e ∈ s.nodeVolumes, e.2 ≠ [] ∧ ∀ v ∈ e.2, v ∈ s.volumes.keys := by
  simp [nodeErrors, List.flatMap_eq_nil_iff, ← Table.has_iff_mem_keys]

/-- Puts down the nodes of each volume, by pairs of a node and a volume. -/
def gathered (acc : Table (List String)) (pairs : List (String × String)) : Table (List String) :=
  pairs.foldl (fun acc p => acc.put p.2 ((acc.get? p.2).getD [] ++ [p.1])) acc

/-- The nodes of a volume. -/
def nodesAmong (pairs : List (String × String)) (volume : String) : List String :=
  (pairs.filter (·.2 = volume)).map (·.1)

theorem get?_gathered (acc : Table (List String)) (pairs : List (String × String)) (v : String) :
    (gathered acc pairs).get? v = if nodesAmong pairs v = [] then acc.get? v
      else some ((acc.get? v).getD [] ++ nodesAmong pairs v) := by
  induction pairs generalizing acc with
  | nil => rfl
  | cons p pairs ih =>
    rw [gathered, List.foldl_cons, ← gathered, ih, Table.get?_put]
    by_cases hp : p.2 = v
    · have hcons : nodesAmong (p :: pairs) v = p.1 :: nodesAmong pairs v := by
        rw [nodesAmong, List.filter_cons_of_pos (by simpa using hp)]
        rfl
      rw [if_pos hp, hcons, if_neg (List.cons_ne_nil _ _), hp]
      split
      · next hnil => rw [hnil]
      · rw [Option.getD_some, List.append_assoc]
        rfl
    · have hcons : nodesAmong (p :: pairs) v = nodesAmong pairs v := by
        rw [nodesAmong, List.filter_cons_of_neg (by simpa using hp)]
        rfl
      rw [if_neg hp, hcons]

theorem nodup_keys_gathered (acc : Table (List String)) (pairs : List (String × String))
    (h : acc.keys.Nodup) : (gathered acc pairs).keys.Nodup := by
  induction pairs generalizing acc with
  | nil => exact h
  | cons p pairs ih => exact ih _ (Table.nodup_keys_put h _ _)

/-- The pairs of a node and a volume in the index of nodes. -/
def nodePairs (s : Store) : List (String × String) :=
  s.nodeVolumes.flatMap fun e => e.2.map fun v => (e.1, v)

theorem holders_eq (s : Store) : s.holders = gathered [] s.nodePairs := by
  rw [gathered, nodePairs, List.foldl_flatMap]
  simp only [List.foldl_map]
  rfl

theorem mem_nodePairs (h : s.nodeVolumes.IsMap) {p : String × String} :
    p ∈ s.nodePairs ↔ p.2 ∈ s.nodeVolumes.members p.1 := by
  obtain ⟨node, v⟩ := p
  rw [h.mem_members, nodePairs]
  simp only [List.mem_flatMap, List.mem_map, Prod.mk.injEq]
  constructor
  · rintro ⟨⟨_, ms⟩, hmem, _, hv, rfl, rfl⟩
    exact ⟨ms, hmem, hv⟩
  · rintro ⟨ms, hmem, hv⟩
    exact ⟨⟨node, ms⟩, hmem, v, hv, rfl, rfl⟩

theorem nodup_nodePairs (h : s.nodeVolumes.IsMap) : s.nodePairs.Nodup := by
  refine List.pairwise_flatMap.mpr ⟨fun e he => ?_, ?_⟩
  · have hsets := h.sets e.1 e.2 ((Table.mem_iff_get? h.keys).mp he)
    exact List.pairwise_map.mpr (hsets.imp fun hne heq => hne (Prod.mk.inj heq).2)
  · refine (List.pairwise_map.mp h.keys).imp fun {e f} hne p hp q hq heq => ?_
    obtain ⟨v, -, rfl⟩ := List.mem_map.mp hp
    obtain ⟨w, -, rfl⟩ := List.mem_map.mp hq
    exact hne (Prod.mk.inj heq).1

theorem mem_nodesAmong (h : s.nodeVolumes.IsMap) {node v : String} :
    node ∈ nodesAmong s.nodePairs v ↔ v ∈ s.nodeVolumes.members node := by
  rw [nodesAmong, List.mem_map]
  constructor
  · rintro ⟨p, hp, rfl⟩
    obtain ⟨hp, hv⟩ := List.mem_filter.mp hp
    rw [← of_decide_eq_true hv]
    exact (mem_nodePairs h).mp hp
  · intro hv
    exact ⟨(node, v), List.mem_filter.mpr ⟨(mem_nodePairs h).mpr hv, decide_eq_true rfl⟩, rfl⟩

theorem nodup_nodesAmong (h : s.nodeVolumes.IsMap) (v : String) :
    (nodesAmong s.nodePairs v).Nodup := by
  refine List.pairwise_map.mpr ?_
  refine ((nodup_nodePairs h).filter _).imp_of_mem fun {p q} hp hq hne heq => hne ?_
  have hpv := of_decide_eq_true (List.mem_filter.mp hp).2
  have hqv := of_decide_eq_true (List.mem_filter.mp hq).2
  exact Prod.ext heq (hpv.trans hqv.symm)

/-- No volume is at two nodes, and it is attached to the one where it is. -/
theorem holderErrors_eq_nil_iff (h : s.nodeVolumes.IsMap) :
    s.holderErrors = [] ↔
      ∀ node v, v ∈ s.nodeVolumes.members node → s.holder v = some node := by
  -- The entries are the volumes that have a node, each with all of its nodes.
  have hentries : ∀ e, e ∈ s.holders ↔
      nodesAmong s.nodePairs e.1 ≠ [] ∧ e.2 = nodesAmong s.nodePairs e.1 := by
    rintro ⟨v, nodes⟩
    have hnodup := nodup_keys_gathered [] s.nodePairs List.nodup_nil
    rw [holders_eq, Table.mem_iff_get? hnodup, get?_gathered]
    split
    · next hnil => simp [hnil]
    · next hne => simp [hne, eq_comm]
  have hparts : s.holderErrors = [] ↔
      ∀ e ∈ s.holders, e.2.length = 1 ∧ s.holder e.1 = e.2.head? := by
    simp [holderErrors, List.flatMap_eq_nil_iff, holder]
  rw [hparts]
  constructor
  · intro hall node v hv
    have hmem := (mem_nodesAmong h).mpr hv
    obtain ⟨hlength, hholder⟩ := hall (v, nodesAmong s.nodePairs v)
      ((hentries _).mpr ⟨List.ne_nil_of_mem hmem, rfl⟩)
    obtain ⟨n, hn⟩ := List.length_eq_one_iff.mp hlength
    rw [hholder]
    dsimp only at hn
    rw [hn] at hmem ⊢
    rw [List.mem_singleton.mp hmem]
    rfl
  · rintro hall ⟨v, nodes⟩ he
    obtain ⟨hne, hnodes⟩ := (hentries _).mp he
    dsimp only at hne hnodes ⊢
    subst hnodes
    -- There is one holder only, and no node is put down twice.
    have hone : ∀ node ∈ nodesAmong s.nodePairs v, s.holder v = some node :=
      fun node hnode => hall node v ((mem_nodesAmong h).mp hnode)
    have hnodup := nodup_nodesAmong h v
    cases hnodes : nodesAmong s.nodePairs v with
    | nil => exact absurd hnodes hne
    | cons n ns =>
      rw [hnodes] at hone hnodup
      have hholder := hone n List.mem_cons_self
      refine ⟨?_, hholder⟩
      cases ns with
      | nil => rfl
      | cons m ns =>
        have hm := hone m (List.mem_cons_of_mem n List.mem_cons_self)
        obtain rfl := Option.some.inj (hholder.symm.trans hm)
        exact absurd List.mem_cons_self (List.nodup_cons.mp hnodup).1

theorem attachmentErrors_eq_nil_iff (h : s.attachments.keys.Nodup) :
    s.attachmentErrors = [] ↔ ∀ id a, s.attachments.get? id = some a →
      id ∈ s.nodeVolumes.members a.node ∧ s.volumes.Where (·.device = some a.device) id := by
  rw [← Table.forall_mem_iff h]
  simp [attachmentErrors, List.flatMap_eq_nil_iff, Table.any_get?_iff]

theorem locationErrors_eq_nil_iff (hv : s.locationVolumes.IsMap) (hn : s.locationSnapshots.IsMap) :
    s.locationErrors = [] ↔
      (∀ location id, id ∈ s.locationVolumes.members location →
        s.volumes.Where (·.location = some location) id) ∧
      ∀ location id, id ∈ s.locationSnapshots.members location →
        s.snapshots.Where (·.location = some location) id := by
  rw [← hv.forall_mem_iff, ← hn.forall_mem_iff]
  simp [locationErrors, List.flatMap_eq_nil_iff, Table.any_get?_iff]

theorem volumeSnapshotErrors_eq_nil_iff :
    s.volumeSnapshotErrors = [] ↔ ∀ e ∈ s.volumeSnapshots,
      e.1 ∈ s.volumes.keys ∧ ∀ id ∈ e.2, s.snapshots.Where (·.volumeId = some e.1) id := by
  simp [volumeSnapshotErrors, List.flatMap_eq_nil_iff, Table.any_get?_iff,
    Table.has_iff_mem_keys]

/-- Going through records, each of which may be refused: nothing is found if nothing is found in
any of them. -/
theorem flatten_mapM_eq_ok_nil_iff {α β ε : Type} {f : β → Except ε (List α)} (bs : List β) :
    (do return (← bs.mapM f).flatten) = (.ok [] : Except ε (List α)) ↔ ∀ b ∈ bs, f b = .ok [] := by
  induction bs with
  | nil => simp [pure, Except.pure, bind, Except.bind]
  | cons b bs ih =>
    rw [List.forall_mem_cons, ← ih, List.mapM_cons]
    cases f b with
    | error e => simp [bind, Except.bind]
    | ok as =>
      cases bs.mapM f with
      | error e => simp [bind, Except.bind]
      | ok ass => simp [bind, Except.bind, pure, Except.pure]

theorem scopeOf_bind_eq_ok_iff {α : Type} {handle : Option String}
    {next : String → Except BadArgument α} {a : α} :
    scopeOf handle >>= next = .ok a ↔
      ∃ name h, handle = some name ∧ Handle.decode name = .ok h ∧ next h.scope = .ok a := by
  cases handle with
  | none => simp [scopeOf, bind, Except.bind]
  | some name =>
    rw [scopeOf]
    cases hname : Handle.decode name with
    | error e => simp [hname, Except.map, bind, Except.bind]
    | ok h => simp [hname, Except.map, bind, Except.bind]

theorem mem_membersAt_iff {i : Index} {key : Option String} {id : String} :
    id ∈ membersAt i key ↔ ∃ k, key = some k ∧ id ∈ i.members k := by
  cases key <;> simp [membersAt]

theorem volumeErrors_eq_ok_nil_iff (h : s.volumes.keys.Nodup) :
    s.volumeErrors = .ok [] ↔ ∀ id v, s.volumes.get? id = some v →
      ∃ k, Handle.decode id = .ok k ∧ v.location = some k.scope ∧
        id ∈ s.locationVolumes.members k.scope ∧ (v.device.isSome → id ∈ s.attachments.keys) := by
  rw [volumeErrors, flatten_mapM_eq_ok_nil_iff, ← Table.forall_mem_iff h]
  refine forall₂_congr fun e he => ?_
  simp only [scopeOf_bind_eq_ok_iff, Option.some.injEq, exists_and_left, exists_eq_left']
  refine exists_congr fun k => and_congr_right fun _ => ?_
  by_cases hlocation : e.2.location = some k.scope
  · simp [hlocation, membersAt, pure, Except.pure, Table.has_iff_mem_keys, and_comm]
  · simp [hlocation, pure, Except.pure]

theorem snapshotErrors_eq_ok_nil_iff (h : s.snapshots.keys.Nodup) :
    s.snapshotErrors = .ok [] ↔ ∀ id n, s.snapshots.get? id = some n →
      ∃ volume k h, n.volumeId = some volume ∧ Handle.decode volume = .ok k ∧
        Handle.decode id = .ok h ∧ k.scope = h.scope ∧
        ∃ location, n.location = some location ∧ id ∈ s.locationSnapshots.members location := by
  rw [snapshotErrors, flatten_mapM_eq_ok_nil_iff, ← Table.forall_mem_iff h]
  refine forall₂_congr fun e he => ?_
  simp only [scopeOf_bind_eq_ok_iff, Option.some.injEq, exists_and_left, exists_eq_left']
  refine exists_congr fun volume => and_congr_right fun _ => ?_
  refine exists_congr fun k => and_congr_right fun _ => ?_
  refine exists_congr fun h => and_congr_right fun _ => ?_
  simp [pure, Except.pure, mem_membersAt_iff, and_comm]

/-! ## The whole report -/

theorem consistencyErrors_eq_ok_nil_iff_parts :
    s.consistencyErrors = .ok [] ↔
      s.nodeErrors = [] ∧ s.holderErrors = [] ∧ s.attachmentErrors = [] ∧ s.volumeErrors = .ok [] ∧
        s.locationErrors = [] ∧ s.volumeSnapshotErrors = [] ∧ s.snapshotErrors = .ok [] := by
  rw [consistencyErrors]
  cases s.volumeErrors with
  | error e => simp [bind, Except.bind]
  | ok volumes =>
    cases s.snapshotErrors with
    | error e => simp [bind, Except.bind]
    | ok snapshots => simp [bind, Except.bind, pure, Except.pure]

theorem agreeing_of_consistencyErrors (h : s.Tabular) (hempty : s.consistencyErrors = .ok []) :
    s.Agreeing := by
  rw [consistencyErrors_eq_ok_nil_iff_parts, nodeErrors_eq_nil_iff,
    holderErrors_eq_nil_iff h.nodeVolumes, attachmentErrors_eq_nil_iff h.attachments,
    volumeErrors_eq_ok_nil_iff h.volumes.nodup,
    locationErrors_eq_nil_iff h.locationVolumes h.locationSnapshots,
    volumeSnapshotErrors_eq_nil_iff, snapshotErrors_eq_ok_nil_iff h.snapshots.nodup] at hempty
  obtain ⟨hnodes, hholders, hattachments, hvolumes, hlocations, hsources, hsnapshots⟩ := hempty
  constructor
  case device =>
    refine fun id d => ⟨?_, ?_⟩
    · rintro ⟨v, hv, hdevice⟩
      obtain ⟨k, -, -, -, hattached⟩ := hvolumes id v hv
      obtain ⟨a, ha⟩ := Table.mem_keys_iff.mp (hattached (Option.isSome_of_eq_some hdevice))
      have hsame := (Table.where_of_get? hv).mp (hattachments id a ha).2
      exact ⟨a, ha, Option.some.inj (hsame.symm.trans hdevice)⟩
    · rintro ⟨a, ha, rfl⟩
      exact (hattachments id a ha).2
  case nodeVolumes =>
    refine ⟨h.nodeVolumes.keys, fun node ids hget => ?_, fun node id => ⟨fun hid => ?_, ?_⟩⟩
    · exact ⟨(hnodes _ ((Table.mem_iff_get? h.nodeVolumes.keys).mpr hget)).1,
        h.nodeVolumes.sets node ids hget⟩
    · obtain ⟨a, ha, hnode⟩ := Option.map_eq_some_iff.mp (hholders node id hid)
      exact ⟨a, ha, congrArg some hnode⟩
    · rintro ⟨a, ha, hnode⟩
      exact Option.some.inj hnode ▸ (hattachments id a ha).1
  case locationVolumes =>
    refine fun location id => ⟨hlocations.1 location id, ?_⟩
    rintro ⟨v, hv, hlocation⟩
    obtain ⟨k, -, hk, hmem, -⟩ := hvolumes id v hv
    exact Option.some.inj (hk.symm.trans hlocation) ▸ hmem
  case locationSnapshots =>
    refine fun location id => ⟨hlocations.2 location id, ?_⟩
    rintro ⟨n, hn, hlocation⟩
    obtain ⟨-, -, -, -, -, -, -, l, hl, hmem⟩ := hsnapshots id n hn
    exact Option.some.inj (hl.symm.trans hlocation) ▸ hmem
  case volumeSnapshots => exact hsources
  case volumeScope =>
    intro id v hv
    obtain ⟨k, hk, hlocation, -⟩ := hvolumes id v hv
    exact ⟨k, hk, hlocation⟩
  case snapshotScope =>
    intro id n hn
    obtain ⟨volume, k, l, hvolume, hk, hl, hscope, location, hlocation, -⟩ := hsnapshots id n hn
    exact ⟨volume, location, l, k, hvolume, hlocation, hl, hk, hscope.symm⟩

theorem Agreeing.consistencyErrors (ha : s.Agreeing) (h : s.Tabular) :
    s.consistencyErrors = .ok [] := by
  refine consistencyErrors_eq_ok_nil_iff_parts.mpr ⟨?nodes, ?holders, ?attachments, ?volumes,
    ?locations, ?sources, ?snapshots⟩
  case nodes =>
    refine nodeErrors_eq_nil_iff.mpr fun e he => ⟨?_, fun id hid => ?_⟩
    · exact (Index.Holds.sets ha.nodeVolumes e.1 e.2
        ((Table.mem_iff_get? h.nodeVolumes.keys).mp he)).1
    · have hmem := h.nodeVolumes.mem_members.mpr ⟨e.2, he, hid⟩
      obtain ⟨v, hv, -⟩ := (ha.where_holder h e.1 id).mp hmem
      exact Table.mem_keys_iff.mpr ⟨v, hv⟩
  case holders =>
    refine (holderErrors_eq_nil_iff h.nodeVolumes).mpr fun node id hid => ?_
    obtain ⟨a, hget, hnode⟩ := (ha.nodeVolumes.mem node id).mp hid
    rw [holder, hget]
    exact hnode
  case attachments =>
    refine (attachmentErrors_eq_nil_iff h.attachments).mpr fun id a hget => ⟨?_, ?_⟩
    · exact (ha.nodeVolumes.mem a.node id).mpr ⟨a, hget, rfl⟩
    · exact (ha.device id a.device).mpr ⟨a, hget, rfl⟩
  case volumes =>
    refine (volumeErrors_eq_ok_nil_iff h.volumes.nodup).mpr fun id v hv => ?_
    obtain ⟨k, hk, hlocation⟩ := ha.volumeScope id v hv
    refine ⟨k, hk, hlocation, (ha.locationVolumes k.scope id).mpr ⟨v, hv, hlocation⟩, ?_⟩
    intro hdevice
    obtain ⟨d, hd⟩ := Option.isSome_iff_exists.mp hdevice
    obtain ⟨a, hget, -⟩ := (ha.device id d).mp ⟨v, hv, hd⟩
    exact Table.mem_keys_iff.mpr ⟨a, hget⟩
  case locations =>
    exact (locationErrors_eq_nil_iff h.locationVolumes h.locationSnapshots).mpr
      ⟨fun l id => (ha.locationVolumes l id).mp, fun l id => (ha.locationSnapshots l id).mp⟩
  case sources => exact volumeSnapshotErrors_eq_nil_iff.mpr ha.volumeSnapshots
  case snapshots =>
    refine (snapshotErrors_eq_ok_nil_iff h.snapshots.nodup).mpr fun id n hn => ?_
    obtain ⟨volume, location, l, k, hvolume, hlocation, hl, hk, hscope⟩ := ha.snapshotScope id n hn
    exact ⟨volume, k, l, hvolume, hk, hl, hscope.symm, location, hlocation,
      (ha.locationSnapshots location id).mpr ⟨n, hn, hlocation⟩⟩

/-- **There is nothing to say exactly about agreeing stores**, whatever is in the tables and the
indices. -/
theorem consistencyErrors_eq_ok_nil_iff (h : s.Tabular) :
    s.consistencyErrors = .ok [] ↔ s.Agreeing :=
  ⟨agreeing_of_consistencyErrors h, fun ha => ha.consistencyErrors h⟩

/-! ## What lists then answer -/

/-- **What an empty report says of any store.** The tables and the indices agree, and every list is
what going through the tables would find; but a volume lists its snapshots only if none is missing
in the index, which the report does not tell. -/
theorem report_complete (h : s.Tabular) :
    (s.consistencyErrors = .ok [] ↔ s.Agreeing) ∧
      (s.consistencyErrors = .ok [] → s.ListingBut s.Remembers ∧
        (s.Listing ↔ ∀ volume, s.Remembers volume)) := by
  have hiff := consistencyErrors_eq_ok_nil_iff h
  refine ⟨hiff, fun hempty => ?_⟩
  have hlisting := (hiff.mp hempty).listing h
  exact ⟨hlisting, hlisting.listing_iff⟩

/-! ## Snapshots forgotten -/

/-- The store whose volumes list no snapshots. -/
def forgetting (s : Store) : Store := { s with volumeSnapshots := [] }

theorem Tabular.forgetting (h : s.Tabular) : s.forgetting.Tabular :=
  { h with volumeSnapshots := ⟨List.nodup_nil, fun _ _ hms => by cases hms⟩ }

/-- The index of the snapshots of volumes can be lost as a whole. -/
theorem Agreeing.forgetting (h : s.Agreeing) : s.forgetting.Agreeing :=
  { h with volumeSnapshots := fun _ he => absurd he List.not_mem_nil }

namespace Restoration

/-- The store with a volume and a snapshot of it. -/
def copied : Store :=
  start.run [(.ok clock, asked), (.ok clock, .createSnapshot first.id (.other .null))]

theorem copied_exact : copied.Exact :=
  have hnew : Store.new {} = .ok start := rfl
  (run_new hnew _).2

theorem copied_reported : copied.Tabular ∧ copied.consistencyErrors = .ok [] ∧
    copied.ListingBut copied.Remembers ∧ (copied.Listing ↔ ∀ volume, copied.Remembers volume) := by
  have htabular := copied_exact.tabular
  have hempty := copied_exact.agreeing.consistencyErrors htabular
  exact ⟨htabular, hempty, (report_complete htabular).2 hempty⟩

/-- Nothing is said about a store whose volume has forgotten its snapshot: the volume lists none,
and the snapshot is there. -/
theorem forgotten_unreported :
    copied.forgetting.Tabular ∧
      (∀ id ∈ copied.forgetting.volumes.keys ++ copied.forgetting.snapshots.keys,
        ∃ h, Handle.decode id = .ok h) ∧
      copied.forgetting.consistencyErrors = .ok [] ∧ ¬ copied.forgetting.Listing := by
  have htabular := copied_exact.tabular.forgetting
  have hagreeing := copied_exact.agreeing.forgetting
  refine ⟨htabular, ?_, hagreeing.consistencyErrors htabular, fun hlisting => ?_⟩
  · show ∀ id ∈ [first.id, copy.id], ∃ h, Handle.decode id = .ok h
    simp only [List.forall_mem_cons]
    exact ⟨⟨_, rfl⟩, ⟨_, rfl⟩, fun _ h => by cases h⟩
  · have hremembers := (hagreeing.listing htabular).listing_iff.mp hlisting first.id
    exact List.not_mem_nil (hremembers List.mem_cons_self copy.id ⟨copy, rfl, rfl⟩)

end Restoration

end Store

end BlockStorage
