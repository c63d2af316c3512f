import BlockStorage.Proofs.Lifecycle.Prompt
import BlockStorage.Proofs.Lifecycle.Refusal
import BlockStorage.Proofs.Store.Listing
import Mathlib.Data.List.Nodup

/-!
# By which device a volume is held

The volumes of a location and those that a node holds come out of one answer of the
provider, in two ways. The listing of the location shows the first attachment of a
volume, whatever its state; that of the node shows the one that the node holds the
volume by. So they may tell two devices of one volume, and they do exactly if another
attachment stands before the held one and names another device.

* `RemoteVolume.ShowsHeld`: the first attachment names the device that the node holds the
  volume by.
* `Leg.finish_map`: a call whose answer is converted.
* `Lifecycle.run_listVolumesIn`, `Lifecycle.run_listVolumesOf`: both listings, as what they make
  of the answer.
* `Lifecycle.mem_volumesOf`, `Lifecycle.mem_heldVolumes`: their records.
* `Lifecycle.listings_agree_iff`: when the listing of a node agrees with that of its location.
-/

namespace BlockStorage

open Handle (IsPart)

variable {γ : Type}

/-! ## One answer and its listings -/

/-- The handle that a volume goes by. -/
def RemoteVolume.handle (v : RemoteVolume) : Handle := ⟨v.scope, v.volumeId⟩

/-- The volume shows, by its first attachment, the device that the node holds it by, if it does. -/
def RemoteVolume.ShowsHeld (node : String) (v : RemoteVolume) : Prop :=
  ∀ a, v.heldBy? node = some a → v.attachments.head?.map (·.device) = some a.device

theorem RemoteVolume.toVolume_eq_ok_iff {v : RemoteVolume} {u : Volume} :
    v.toVolume = .ok u ↔ ∃ id, Handle.encode v.scope v.volumeId = .ok id ∧
      u = { id, sizeGb := some v.sizeGb, location := some v.scope, type := .san, durable := true,
            device := v.attachments.head?.map (·.device) } := by
  rw [RemoteVolume.toVolume]
  cases Handle.encode v.scope v.volumeId with
  | error why =>
    constructor
    · intro h
      cases h
    · rintro ⟨_, hid, -⟩
      cases hid
  | ok id =>
    constructor
    · intro h
      exact ⟨id, rfl, (Except.ok.inj h).symm⟩
    · rintro ⟨_, hid, rfl⟩
      rw [Except.ok.inj hid]
      rfl

/-- The record of a volume tells its handle. -/
theorem RemoteVolume.decode_id {v : RemoteVolume} {u : Volume} (h : v.toVolume = .ok u) :
    Handle.decode u.id = .ok v.handle := by
  obtain ⟨id, hid, rfl⟩ := toVolume_eq_ok_iff.mp h
  exact Handle.decode_encode hid

/-- What is converted at all is converted member by member. -/
theorem mapM_eq_ok_filterMap {α β ε : Type} {f : α → Except ε β} {as : List α} {bs : List β}
    (h : as.mapM f = .ok bs) :
    (∀ a ∈ as, ∃ b, f a = .ok b) ∧ bs = as.filterMap fun a => (f a).toOption := by
  induction as generalizing bs with
  | nil => exact ⟨fun a ha => absurd ha List.not_mem_nil, (Except.ok.inj h).symm⟩
  | cons a as ih =>
    rw [List.mapM_cons] at h
    cases ha : f a with
    | error e => rw [ha] at h; cases h
    | ok b =>
      cases hbs : as.mapM f with
      | error e => rw [ha, hbs] at h; cases h
      | ok rest =>
        rw [ha, hbs] at h
        obtain rfl : b :: rest = bs := Except.ok.inj h
        obtain ⟨hall, hrest⟩ := ih hbs
        refine ⟨fun x hx => ?_, ?_⟩
        · rcases List.mem_cons.mp hx with rfl | hx
          · exact ⟨b, ha⟩
          · exact hall x hx
        · rw [List.filterMap_cons, ha, ← hrest]
          rfl

/-- An answer tells each volume once. -/
def TellsOnce (answers : List (Option RemoteVolume)) : Prop :=
  ((answers.filterMap fun v => v).map (·.handle)).Nodup

theorem mem_told {answers : List (Option RemoteVolume)} {v : RemoteVolume} :
    (v ∈ answers.filterMap fun v => v) ↔ some v ∈ answers := by
  rw [List.mem_filterMap]
  exact ⟨fun ⟨_, hv, h⟩ => h ▸ hv, fun hv => ⟨_, hv, rfl⟩⟩

theorem TellsOnce.eq_of_handle {answers : List (Option RemoteVolume)} (h : TellsOnce answers)
    {v v' : RemoteVolume} (hv : some v ∈ answers) (hv' : some v' ∈ answers)
    (hhandle : v.handle = v'.handle) : v = v' :=
  List.inj_on_of_nodup_map h (mem_told.mpr hv) (mem_told.mpr hv') hhandle

/-! ## Calls whose answer is converted -/

/-- Converting the answer of a call changes nothing that it does. -/
theorem Leg.finish_map {ε α β : Type} {pauses : Nat} (f : α → β) (leg : Leg ε γ α pauses)
    (w : World ε γ) : (leg.map f).finish w = (f (leg.finish w).1, (leg.finish w).2) := by
  induction leg generalizing w with
  | done s a => rfl
  | paused s delay next ih => exact ih _ _ _

namespace Lifecycle

variable {c : Lifecycle γ} {w : World Event γ} {node : String} {n : Handle}
  {answers : List (Option RemoteVolume)} {us vs : List Volume}

/-- The listing of a location makes its records of what one call answers. -/
theorem run_listVolumesIn (c : Lifecycle γ) {location : String} (hgiven : location.isEmpty = false)
    (w : World Event γ) :
    ((c.perform (.listVolumesIn location)).run w).1 =
      (converted volumesOf ((c.ask (.describeVolumes location [])).run w).1).map distinct := by
  have hlisted : ((listIn c.volumesIn location).run w).1 =
      converted volumesOf ((c.ask (.describeVolumes location [])).run w).1 := by
    change ((c.legIn (.describeVolumes location []) volumesOf location w.now w.remote).finish w).1 =
      converted volumesOf ((c.leg (.describeVolumes location []) w.now w.remote).finish w).1
    rw [legIn, if_neg (by rw [hgiven]; exact Bool.false_ne_true), Leg.finish_map]
    cases ((c.leg (.describeVolumes location []) w.now w.remote).finish w).1 with
    | error f => rfl
    | ok answers =>
      rw [converted]
      dsimp only
      cases volumesOf answers <;> rfl
  rw [← hlisted]
  exact congrArg Prod.fst (run_map distinct (listIn c.volumesIn location) w)

theorem run_listVolumesOf (c : Lifecycle γ) (hnode : Handle.decode node = .ok n)
    (w : World Event γ) :
    ((c.perform (.listVolumesOf node)).run w).1 =
      (converted (heldVolumes n.localId)
        ((c.ask (.describeVolumes n.scope [])).run w).1).map distinct := by
  have hrun : (c.perform (.listVolumesOf node)).run w =
      (ExceptT.bindCont
        (fun answers => do return distinct (← Flow.check (heldVolumes n.localId answers)))
        ((c.ask (.describeVolumes n.scope [])).run w).1 : StateM (World Event γ) _)
        ((c.ask (.describeVolumes n.scope [])).run w).2 := by
    change (c.listVolumesOf node).run w = _
    rw [listVolumesOf, hnode]
    rfl
  rw [hrun]
  cases ((c.ask (.describeVolumes n.scope [])).run w).1 with
  | error f => rfl
  | ok answers =>
    rw [converted]
    dsimp only [ExceptT.bindCont]
    cases heldVolumes n.localId answers <;> rfl

/-! ## The records of both -/

/-- The volumes that a node holds, each with the attachment that it is held by. -/
def held (node : String) (answers : List (Option RemoteVolume)) :
    List (RemoteVolume × RemoteAttachment) :=
  (answers.filterMap fun v => v).filterMap fun v => (v.heldBy? node).map (v, ·)

/-- The record of a volume that is held, by its attachment. -/
def heldRecord (p : RemoteVolume × RemoteAttachment) : Except BadArgument Volume := do
  return { ← p.1.toVolume with device := some p.2.device }

theorem heldVolumes_eq (node : String) (answers : List (Option RemoteVolume)) :
    heldVolumes node answers = (held node answers).mapM heldRecord := by
  have hheld : held node answers = answers.filterMap fun v => do
      let v ← v
      let a ← v.heldBy? node
      return (v, a) := by
    rw [held, List.filterMap_filterMap]
    congr 1
    funext o
    cases o with
    | none => rfl
    | some v => exact Option.map_eq_bind
  rw [hheld]
  rfl

theorem mem_held {v : RemoteVolume} {a : RemoteAttachment} :
    (v, a) ∈ held node answers ↔ some v ∈ answers ∧ v.heldBy? node = some a := by
  rw [held, List.mem_filterMap]
  constructor
  · rintro ⟨v', hv', hmap⟩
    obtain ⟨a', ha', hpair⟩ := Option.map_eq_some_iff.mp hmap
    obtain ⟨rfl, rfl⟩ := Prod.mk.inj hpair
    exact ⟨mem_told.mp hv', ha'⟩
  · rintro ⟨hv, ha⟩
    exact ⟨v, mem_told.mpr hv, by rw [ha]; rfl⟩

/-- What a node holds is told once, if the answer tells each volume once. -/
theorem pairwise_held (h : TellsOnce answers) (node : String) :
    (held node answers).Pairwise fun p p' => p.1.handle ≠ p'.1.handle := by
  have hvolume : ∀ (v : RemoteVolume) (p : RemoteVolume × RemoteAttachment),
      (v.heldBy? node).map (v, ·) = some p → p.1 = v := by
    intro v p hp
    obtain ⟨a, -, rfl⟩ := Option.map_eq_some_iff.mp hp
    rfl
  rw [held, List.pairwise_filterMap]
  refine (List.pairwise_map.mp h).imp fun {v v'} hne p hp p' hp' => ?_
  rw [hvolume v p hp, hvolume v' p' hp']
  exact hne

/-- The listing of a location holds the records of its volumes. -/
theorem mem_volumesOf (h : volumesOf answers = .ok us) {u : Volume} :
    u ∈ us ↔ ∃ v, some v ∈ answers ∧ v.toVolume = .ok u := by
  obtain ⟨-, rfl⟩ := mapM_eq_ok_filterMap h
  rw [List.mem_filterMap]
  constructor
  · rintro ⟨v, hv, hu⟩
    exact ⟨v, mem_told.mp hv, eq_ok_of_toOption hu⟩
  · rintro ⟨v, hv, hu⟩
    exact ⟨v, mem_told.mpr hv, by rw [hu]; rfl⟩

/-- Each volume of a location that is listed can be converted. -/
theorem toVolume_of_volumesOf (h : volumesOf answers = .ok us) {v : RemoteVolume}
    (hv : some v ∈ answers) : ∃ u ∈ us, v.toVolume = .ok u := by
  obtain ⟨u, hu⟩ := (mapM_eq_ok_filterMap h).1 v (mem_told.mpr hv)
  exact ⟨u, (mem_volumesOf h).mpr ⟨v, hv, hu⟩, hu⟩

/-- Records of different handles are all kept. -/
theorem distinct_of_ids {α : Type} {f : α → Except BadArgument Volume} {handle : α → Handle}
    {as : List α} (hid : ∀ a u, f a = .ok u → Handle.decode u.id = .ok (handle a))
    (has : as.Pairwise fun a a' => handle a ≠ handle a') (hus : as.mapM f = .ok us) :
    distinct us = us := by
  obtain ⟨-, rfl⟩ := mapM_eq_ok_filterMap hus
  refine distinct_eq_self (List.pairwise_filterMap.mpr (has.imp fun {a a'} hne u hu u' hu' => ?_))
  refine Volume.beq_eq_false fun hsame => hne ?_
  have hdecoded := hid a u (eq_ok_of_toOption hu)
  rw [← hsame] at hdecoded
  exact Except.ok.inj (hdecoded.symm.trans (hid a' u' (eq_ok_of_toOption hu')))

theorem heldRecord_eq_ok_iff {p : RemoteVolume × RemoteAttachment} {x : Volume} :
    heldRecord p = .ok x ↔
      ∃ u, p.1.toVolume = .ok u ∧ x = { u with device := some p.2.device } := by
  rw [heldRecord]
  cases p.1.toVolume with
  | error why =>
    constructor
    · intro h
      cases h
    · rintro ⟨_, hu, -⟩
      cases hu
  | ok u =>
    constructor
    · intro h
      exact ⟨u, rfl, (Except.ok.inj h).symm⟩
    · rintro ⟨_, hu, rfl⟩
      rw [Except.ok.inj hu]
      rfl

/-- The listing of a node holds the records of the volumes that it holds, with the device that it
holds each by. -/
theorem mem_heldVolumes (h : heldVolumes node answers = .ok vs) {x : Volume} :
    x ∈ vs ↔ ∃ v a u, some v ∈ answers ∧ v.heldBy? node = some a ∧ v.toVolume = .ok u ∧
      x = { u with device := some a.device } := by
  rw [heldVolumes_eq] at h
  obtain ⟨-, rfl⟩ := mapM_eq_ok_filterMap h
  rw [List.mem_filterMap]
  constructor
  · rintro ⟨⟨v, a⟩, hheld, hx⟩
    obtain ⟨hv, ha⟩ := mem_held.mp hheld
    obtain ⟨u, hu, hxu⟩ := heldRecord_eq_ok_iff.mp (eq_ok_of_toOption hx)
    exact ⟨v, a, u, hv, ha, hu, hxu⟩
  · rintro ⟨v, a, u, hv, ha, hu, hxu⟩
    refine ⟨(v, a), mem_held.mpr ⟨hv, ha⟩, ?_⟩
    rw [heldRecord_eq_ok_iff.mpr ⟨u, hu, hxu⟩]
    rfl

theorem heldVolumes_of_volumesOf (h : volumesOf answers = .ok us) (node : String) :
    ∃ vs, heldVolumes node answers = .ok vs := by
  rw [heldVolumes_eq]
  refine mapM_ok fun ⟨v, a⟩ hheld => ?_
  obtain ⟨u, -, hu⟩ := toVolume_of_volumesOf h (mem_held.mp hheld).1
  exact ⟨_, heldRecord_eq_ok_iff.mpr ⟨u, hu, rfl⟩⟩

theorem distinct_volumesOf (honce : TellsOnce answers) (h : volumesOf answers = .ok us) :
    distinct us = us :=
  distinct_of_ids (fun _ _ => RemoteVolume.decode_id) (List.pairwise_map.mp honce) h

theorem distinct_heldVolumes (honce : TellsOnce answers) (h : heldVolumes node answers = .ok vs) :
    distinct vs = vs := by
  rw [heldVolumes_eq] at h
  refine distinct_of_ids (fun p x hx => ?_) (pairwise_held honce node) h
  obtain ⟨u, hu, rfl⟩ := heldRecord_eq_ok_iff.mp hx
  show Handle.decode u.id = _
  exact RemoteVolume.decode_id hu

/-! ## Where they agree -/

/-- What the listing of a node tells, beside that of its location. -/
structure ListingsTell (node : String) (answers : List (Option RemoteVolume))
    (us vs : List Volume) : Prop where
  /-- The node's listing shows the device that the node holds a volume by. -/
  held : ∀ x ∈ vs, ∃ v a, some v ∈ answers ∧ v.heldBy? node = some a ∧
    Handle.decode x.id = .ok v.handle ∧ x.device = some a.device
  /-- Its records are those of the location but for that. -/
  alike : ∀ x ∈ vs, ∃ u ∈ us, x = { u with device := x.device }
  /-- They are those of the location where the first attachment shows that device too. -/
  agree_iff : (∀ x ∈ vs, x ∈ us) ↔ ∀ v, some v ∈ answers → v.ShowsHeld node

/-- A volume is listed for its node as for its location if its first attachment shows the device
that it is held by. -/
theorem showsHeld_iff (honce : TellsOnce answers) (hus : volumesOf answers = .ok us)
    (hvs : heldVolumes node answers = .ok vs) :
    (∀ x ∈ vs, x ∈ us) ↔ ∀ v, some v ∈ answers → v.ShowsHeld node := by
  constructor
  · intro hall v hv a ha
    obtain ⟨u, -, hu⟩ := toVolume_of_volumesOf hus hv
    obtain ⟨v', hv', hu'⟩ := (mem_volumesOf hus).mp
      (hall _ ((mem_heldVolumes hvs).mpr ⟨v, a, u, hv, ha, hu, rfl⟩))
    -- The same id is the same volume, so the record is the one that the location shows.
    have hdecoded := RemoteVolume.decode_id hu'
    have hhandle := Except.ok.inj ((RemoteVolume.decode_id hu).symm.trans hdecoded)
    obtain rfl := honce.eq_of_handle hv hv' hhandle
    obtain ⟨id, -, rfl⟩ := RemoteVolume.toVolume_eq_ok_iff.mp hu
    exact congrArg Volume.device (Except.ok.inj (hu.symm.trans hu'))
  · intro hshows x hx
    obtain ⟨v, a, u, hv, ha, hu, rfl⟩ := (mem_heldVolumes hvs).mp hx
    have hdevice : u.device = some a.device := by
      obtain ⟨id, -, rfl⟩ := RemoteVolume.toVolume_eq_ok_iff.mp hu
      exact hshows v hv a ha
    rw [← hdevice]
    exact (mem_volumesOf hus).mpr ⟨v, hv, hu⟩

theorem listingsTell (honce : TellsOnce answers) (hus : volumesOf answers = .ok us)
    (hvs : heldVolumes node answers = .ok vs) : ListingsTell node answers us vs where
  held x hx := by
    obtain ⟨v, a, u, hv, ha, hu, rfl⟩ := (mem_heldVolumes hvs).mp hx
    have hdecoded : Handle.decode u.id = .ok v.handle := RemoteVolume.decode_id hu
    exact ⟨v, a, hv, ha, hdecoded, rfl⟩
  alike x hx := by
    obtain ⟨v, a, u, hv, ha, hu, rfl⟩ := (mem_heldVolumes hvs).mp hx
    exact ⟨u, (mem_volumesOf hus).mpr ⟨v, hv, hu⟩, rfl⟩
  agree_iff := showsHeld_iff honce hus hvs

/-- **The listing of a node agrees with that of its location exactly where the first attachments of
what the node holds show the devices that it holds them by**, over any provider that gives both the
same answer and tells each volume once in it. -/
theorem listings_agree_iff (c : Lifecycle γ) (hnode : Handle.decode node = .ok n)
    (honce : TellsOnce answers) {w w' : World Event γ}
    (hw : ((c.ask (.describeVolumes n.scope [])).run w).1 = .ok answers)
    (hw' : ((c.ask (.describeVolumes n.scope [])).run w').1 = .ok answers)
    (hus : ((c.perform (.listVolumesIn n.scope)).run w).1 = .ok us) :
    ∃ vs : List Volume, ((c.perform (.listVolumesOf node)).run w').1 = .ok vs ∧
      ListingsTell n.localId answers us vs := by
  rw [run_listVolumesIn c (Handle.isPart_scope hnode).given, hw, converted] at hus
  rw [run_listVolumesOf c hnode, hw', converted]
  cases hlocation : volumesOf answers with
  | error why =>
    rw [hlocation] at hus
    cases hus
  | ok us' =>
    obtain ⟨vs, hvs⟩ := heldVolumes_of_volumesOf hlocation n.localId
    rw [hlocation] at hus
    obtain rfl : distinct us' = us := Except.ok.inj hus
    rw [distinct_volumesOf honce hlocation]
    refine ⟨vs, ?_, listingsTell honce hlocation hvs⟩
    rw [hvs]
    exact congrArg Except.ok (distinct_heldVolumes honce hvs)

/-! ### Two devices of one volume -/

/-- A volume that one node has let go of and another holds. -/
def passedOn (first second : RemoteAttachment) : RemoteVolume :=
  ⟨"us-east-1", "vol-1", 8.0, "us-east-1a", .inUse, [first, second], none, none⟩

def letGo : RemoteAttachment := ⟨"vol-1", "i-2", "/dev/sdf", .detached⟩

def holding : RemoteAttachment := ⟨"vol-1", "i-1", "/dev/sdg", .attached⟩

/-- The flows over a provider that has this volume alone. -/
def having (v : RemoteVolume) : Lifecycle Unit where
  gateway := .prompt fun
    | .describeVolumes _ _ => .ok [some v]
    | _ => .error .aborted

/-- Where the held attachment stands first the listings agree. -/
theorem passedOn_listed : ∃ us vs : List Volume,
    (((having (passedOn holding letGo)).perform (.listVolumesIn "us-east-1")).run
      { remote := () }).1 = .ok us ∧
    (((having (passedOn holding letGo)).perform (.listVolumesOf "us-east-1/i-1")).run
      { remote := () }).1 = .ok vs ∧ vs ≠ [] ∧ ∀ x ∈ vs, x ∈ us := by
  have hnode : Handle.decode "us-east-1/i-1" = .ok ⟨"us-east-1", "i-1"⟩ := rfl
  have honce : TellsOnce [some (passedOn holding letGo)] := List.nodup_singleton _
  have hanswer : (((having (passedOn holding letGo)).ask (.describeVolumes "us-east-1" [])).run
      { remote := () }).1 = .ok [some (passedOn holding letGo)] := rfl
  obtain ⟨vs, hvs, htell⟩ :=
    listings_agree_iff (having (passedOn holding letGo)) hnode honce hanswer hanswer rfl
  refine ⟨_, vs, rfl, hvs, ?_, htell.agree_iff.mpr fun v hv a ha => ?_⟩
  · rintro rfl
    cases hvs
  · obtain rfl := Option.some.inj (List.mem_singleton.mp hv)
    obtain rfl : holding = a := Option.some.inj ha
    rfl

/-- A stale attachment hides the one that is held: one node holds the volume, by one attachment,
and the listing of the location names the device that another node had it by. -/
theorem stale_device_listed :
    ((passedOn letGo holding).attachments.filter (·.status.isHeld)).length = 1 ∧
    ∃ us vs : List Volume,
      (((having (passedOn letGo holding)).perform (.listVolumesIn "us-east-1")).run
        { remote := () }).1 = .ok us ∧
      (((having (passedOn letGo holding)).perform (.listVolumesOf "us-east-1/i-1")).run
        { remote := () }).1 = .ok vs ∧
      us.map (·.device) = [some "/dev/sdf"] ∧ vs.map (·.device) = [some "/dev/sdg"] ∧
      ∃ x ∈ vs, x ∉ us := by
  refine ⟨rfl, _, _, rfl, rfl, rfl, rfl, _, List.mem_singleton_self _, fun hmem => ?_⟩
  have hdevice := congrArg Volume.device (List.mem_singleton.mp hmem)
  exact absurd hdevice (by decide)

end Lifecycle

end BlockStorage
