import BlockStorage.Proofs.Check
import BlockStorage.Proofs.Lifecycle.Admission
import BlockStorage.Proofs.Store.Exact

/-!
# Two ways of refusing

The store and the flows over a provider serve the same operations, and each checks
the arguments in its own way: the flows at their beginning, the store partly while it
makes an id. They refuse the same arguments, but for three differences: the store does
not check the options of a detachment, it lists an empty location, and it makes no id
in a region that holds a separator.

* `Store.Inadmissible`: the arguments that a store in use refuses.
* `Store.refuses_iff`: it refuses these and no others.
* `Operation.Alike`: an operation stays clear of the differences.
* `refuse_alike_iff`: the two ways agree about an operation exactly then.
-/

namespace BlockStorage

open Handle (IsPart)
open Lifecycle (placement creationArguments attachArguments detachArguments detachTarget
  detachScope)

/-! ## Faults that are no refusals -/

theorem Unrefused.not_refused {α : Type} {r : Except Fault α} (h : Unrefused r) : ¬ Refused r := by
  rintro ⟨why, hwhy⟩
  exact h.ne why hwhy

theorem Checked.orFault_unrefused {α : Type} (a : Checked α) : Unrefused a.orFault := by
  cases a with
  | good a => exact .ok a
  | bad issues => exact .error rfl

theorem Options.name?_unrefused (options : Options) : Unrefused options.name? := by
  cases options <;> first | exact .ok _ | exact .error rfl

theorem Options.nodeId?_unrefused (options : Options) : Unrefused options.nodeId? := by
  cases options <;> first | exact .ok _ | exact .error rfl

theorem Options.device?_unrefused (options : Options) : Unrefused options.device? := by
  cases options <;> first | exact .ok _ | exact .error rfl

/-- A handle is refused, or it is decoded. -/
theorem refused_decode_iff {handle : String} :
    Refused ((Handle.decode handle).mapError Fault.argument) ↔
      ∃ why, Handle.decode handle = .error why := by
  cases Handle.decode handle with
  | error why => exact iff_of_true ⟨why, rfl⟩ ⟨why, rfl⟩
  | ok h =>
    refine iff_of_false (Unrefused.ok h).not_refused ?_
    rintro ⟨_, hwhy⟩
    cases hwhy

/-- Where nothing is refused one by one, nothing is refused in a row. -/
theorem unrefused_mapM {α β : Type} {f : β → Except Fault α} (h : ∀ b, Unrefused (f b))
    (bs : List β) : Unrefused (bs.mapM f) := by
  induction bs with
  | nil => exact .ok []
  | cons b bs ih =>
    rw [List.mapM_cons]
    cases hb : f b with
    | error why => exact .error (h b why hb)
    | ok a => exact ih.map (a :: ·)

namespace Store

variable {α : Type} {s : Store}

theorem unrefused_passes (options : Options) (a : Attachment) : Unrefused (passes options a) := by
  rw [passes]
  split
  · exact .ok _
  · cases hdevice : options.device? with
    | error f => exact .error (options.device?_unrefused f hdevice)
    | ok device =>
      simp only [bind, Except.bind]
      split
      · exact .ok _
      · cases hnode : options.nodeId? with
        | error f => exact .error (options.nodeId?_unrefused f hnode)
        | ok node => exact .ok _

theorem unrefused_lookUp [BEq α] (t : Table α) (ids : List String) : Unrefused (lookUp t ids) := by
  refine (unrefused_mapM (fun id => ?_) ids).map distinct
  split
  · exact .ok _
  · exact .error rfl

theorem refused_withHandle_iff {handle : String} {answer : Except Fault α} (h : Unrefused answer) :
    Refused (withHandle handle answer) ↔
      Refused ((Handle.decode handle).mapError Fault.argument) := by
  rw [withHandle]
  cases Handle.decode handle with
  | error why => exact iff_of_true ⟨why, rfl⟩ ⟨why, rfl⟩
  | ok k => exact iff_of_false h.not_refused (Unrefused.ok k).not_refused

/-! ## Placements and orders -/

/-- The location of zoned options, where one is given, has to be the region of the zone. -/
theorem location_cases (location : Option String) (region : String) :
    location = none ∨ location = some region ∨ ∃ other, location = some other ∧ other ≠ region := by
  cases location with
  | none => exact .inl rfl
  | some other =>
    by_cases h : other = region
    · exact .inr (.inl (by rw [h]))
    · exact .inr (.inr ⟨other, rfl, h⟩)

/-- What can be placed is ordered there, and nothing else is. -/
theorem order_zoned (o : ZonedVolumeOptions) :
    (order (.zonedVolume o)).toOption =
      (placement o).toOption.map fun p => ⟨p.1, o.sizeGb, o.snapshotId⟩ := by
  rw [order, locate, placement]
  cases hregion : Handle.regionOfZone o.zone with
  | error why => rfl
  | ok region =>
    have hgiven := Handle.regionOfZone_given hregion
    simp only [bind, Except.bind, pure, Except.pure, throw, throwThe, MonadExceptOf.throw]
    rcases location_cases o.location region with hl | hl | ⟨other, hl, hne⟩
    case inr.inr => simp [hl, hne, Except.toOption]
    all_goals
      rw [hl]
      cases hsource : o.snapshotId with
      | none => cases hsize : o.sizeGb <;> simp [hgiven, Except.toOption]
      | some id =>
        cases hid : Handle.decode id with
        | error why => simp [hgiven, hid, Except.toOption]
        | ok source =>
          by_cases hscope : source.scope = region <;>
            simp [hgiven, hid, hscope, Except.toOption]

/-- A placement without a source is that of options without a snapshot. -/
theorem placement_fresh {o : ZonedVolumeOptions} {scope : String}
    (h : placement o = .ok (scope, none)) : o.snapshotId = none := by
  have hanywhere := Lifecycle.placement_anywhere h
  rw [placement] at hanywhere
  cases hregion : Handle.regionOfZone o.zone with
  | error why =>
    rw [hregion] at hanywhere
    cases hanywhere
  | ok region =>
    rw [hregion] at hanywhere
    cases hsource : o.snapshotId with
    | none => rfl
    | some id =>
      simp only [bind, Except.bind, hsource] at hanywhere
      split at hanywhere
      · cases hanywhere
      · split at hanywhere <;> cases hanywhere

/-! ## What a store refuses -/

/-- A store refuses an argument. -/
def Refuses (s : Store) (now : Except Fault Timestamp) (op : Operation) : Prop :=
  Refused (s.perform now op).answer

/-- The arguments that a store in use refuses. -/
def Inadmissible : Operation → Prop
  | .createVolume _ options => Refused (creationArguments options) ∨
      ∃ o scope, options = .zonedVolume o ∧ placement o = .ok (scope, none) ∧
        Handle.separator ∈ scope.toList
  | .attachVolume volume node options => Refused (attachArguments volume node options)
  | .detachVolume handle _ | .removeVolume handle | .getVolume handle | .listVolumesOf handle
  | .createSnapshot handle _ | .deleteSnapshot handle | .getSnapshot handle
  | .listSnapshotsOf handle => Refused ((Handle.decode handle).mapError .argument)
  | .listVolumes | .listVolumesIn _ | .listSnapshots | .listSnapshotsIn _ => False

/-- Once the id is made, the name can still be wrong, but that refuses nothing. -/
theorem unrefused_createVolume {name : Datum} {options : Options} {o : Order} {id : String}
    (horder : order options = .ok o)
    (hid : Handle.encode o.location (s.settings.volumePrefix ++ toString s.nextVolume) = .ok id) :
    Unrefused (s.createVolume name options).answer := by
  rw [createVolume, horder]
  dsimp only
  split
  · exact .ok _
  · rw [hid]
    dsimp only
    split
    · next f hname => exact .error (Checked.orFault_unrefused _ f hname)
    · exact .ok _

theorem refused_createVolume_iff (hfree : Handle.separator ∉ s.settings.volumePrefix.toList)
    (name : Datum) (o : ZonedVolumeOptions) :
    Refused (s.createVolume name (.zonedVolume o)).answer ↔
      Refused (creationArguments (.zonedVolume o)) ∨
        ∃ scope, placement o = .ok (scope, none) ∧ Handle.separator ∈ scope.toList := by
  have horder := order_zoned o
  cases hp : placement o with
  | error why =>
    rw [hp] at horder
    refine iff_of_true ?_ (.inl ⟨why, by rw [creationArguments, hp]; rfl⟩)
    cases ho : order (.zonedVolume o) with
    | error why' => exact ⟨why', by rw [createVolume, ho]; rfl⟩
    | ok _ =>
      rw [ho] at horder
      cases horder
  | ok p =>
    obtain ⟨scope, source⟩ := p
    rw [hp] at horder
    have ho : order (.zonedVolume o) = .ok ⟨scope, o.sizeGb, o.snapshotId⟩ := by
      cases ho : order (.zonedVolume o) with
      | error why =>
        rw [ho] at horder
        cases horder
      | ok _ =>
        rw [ho] at horder
        exact congrArg _ (Option.some.inj horder)
    have hlocal := Handle.isPart_numbered hfree s.nextVolume
    have hadmitted : ¬ Refused (creationArguments (.zonedVolume o)) := by
      rintro ⟨why, hwhy⟩
      rw [creationArguments, hp] at hwhy
      cases hwhy
    by_cases hsep : source = none ∧ Handle.separator ∈ scope.toList
    · obtain ⟨rfl, hmem⟩ := hsep
      refine iff_of_true ?_ (.inr ⟨scope, rfl, hmem⟩)
      refine ⟨.separatorInScope scope, ?_⟩
      rw [createVolume, ho]
      simp only [placement_fresh hp, sizeOf?, Handle.encode_of_separator hlocal hmem]
      rfl
    · have hscope := Lifecycle.isPart_of_placement hp fun hnone hmem => hsep ⟨hnone, hmem⟩
      obtain ⟨id, hid⟩ := Handle.encode_of_isPart hscope hlocal
      refine iff_of_false (unrefused_createVolume ho hid).not_refused ?_
      rintro (hrefused | ⟨_, hplaced, hmem⟩)
      · exact hadmitted hrefused
      · cases hplaced
        exact hsep ⟨rfl, hmem⟩

theorem refused_attachVolume_iff (volume node : String) (options : Options) :
    Refused (s.attachVolume volume node options).answer ↔
      Refused (attachArguments volume node options) := by
  rw [attachVolume, attachArguments]
  cases options.requiredDevice with
  | error f =>
    constructor
    · rintro ⟨why, hwhy⟩
      obtain rfl := Except.error.inj hwhy
      exact ⟨why, rfl⟩
    · rintro ⟨why, hwhy⟩
      obtain rfl := Except.error.inj hwhy
      exact ⟨why, rfl⟩
  | ok device =>
    cases Handle.sameScope volume node with
    | error why => exact iff_of_true ⟨why, rfl⟩ ⟨why, rfl⟩
    | ok ends =>
      refine iff_of_false (Unrefused.not_refused ?_) (Unrefused.ok _).not_refused
      dsimp only
      split
      · exact .ok _
      · split
        · split <;> exact .ok _
        · exact .ok _

/-- An operation that refuses nothing but its handle. -/
theorem refused_decoded_iff {handle : String} {rest : Handle → Step α}
    (h : ∀ k, Handle.decode handle = .ok k → Unrefused (rest k).answer) :
    Refused (match Handle.decode handle with
      | .error why => s.refusing why
      | .ok k => rest k).answer ↔ Refused ((Handle.decode handle).mapError Fault.argument) := by
  cases hdecode : Handle.decode handle with
  | error why => exact iff_of_true ⟨why, rfl⟩ ⟨why, rfl⟩
  | ok k => exact iff_of_false (h k hdecode).not_refused (Unrefused.ok k).not_refused

theorem refused_detachVolume_iff (volume : String) (options : Options) :
    Refused (s.detachVolume volume options).answer ↔
      Refused ((Handle.decode volume).mapError Fault.argument) := by
  rw [detachVolume]
  refine refused_decoded_iff fun _ _ => ?_
  split
  · exact .ok _
  · split
    · exact .ok _
    · split
      · next f hpasses => exact .error (unrefused_passes _ _ f hpasses)
      · exact .ok _
      · exact .ok _

theorem refused_removeVolume_iff (volume : String) :
    Refused (s.removeVolume volume).answer ↔
      Refused ((Handle.decode volume).mapError Fault.argument) := by
  rw [removeVolume]
  refine refused_decoded_iff fun _ _ => ?_
  split <;> exact .ok _

theorem refused_deleteSnapshot_iff (snapshot : String) :
    Refused (s.deleteSnapshot snapshot).answer ↔
      Refused ((Handle.decode snapshot).mapError Fault.argument) := by
  rw [deleteSnapshot]
  refine refused_decoded_iff fun _ _ => ?_
  split <;> exact .ok _

theorem refused_createSnapshot_iff (hexact : s.Exact)
    (hfree : Handle.separator ∉ s.settings.snapshotPrefix.toList) (volume : String)
    (options : Options) (now : Timestamp) :
    Refused (s.createSnapshot volume options (.ok now)).answer ↔
      Refused ((Handle.decode volume).mapError Fault.argument) := by
  rw [createSnapshot]
  refine refused_decoded_iff fun handle hdecode => ?_
  split
  · exact .ok _
  · next v hv =>
    obtain ⟨id, hid⟩ := Handle.encode_of_isPart (Handle.isPart_scope hdecode)
      (Handle.isPart_numbered hfree s.nextSnapshot)
    rw [hexact.snapshotLocation_eq hdecode hv]
    dsimp only
    rw [hid]
    dsimp only
    split
    · next f hasked =>
      rcases asked_eq_error _ hasked with ⟨-, hname⟩ | hnow
      · exact .error (options.name?_unrefused f hname)
      · cases hnow
    · exact .ok _

theorem run_settings (s : Store) (ops : List Timed) : (s.run ops).settings = s.settings := by
  refine run_induct (P := fun t => t.settings = s.settings) rfl (fun t u ht hc => ?_) ops
  cases hc <;> exact ht

end Store

/-- A creation names a zone. -/
def Operation.Zoned : Operation → Prop
  | createVolume _ options => ∃ o, options = .zonedVolume o
  | _ => True

/-- **What a store in use refuses** depends on the arguments alone. -/
theorem Store.refuses_iff {s : Store} {settings : StoreSettings} (hvalid : settings.Valid)
    (hs : Store.new settings = .ok s) (ops : List Timed) (now : Timestamp) {op : Operation}
    (hzoned : op.Zoned) : (s.run ops).Refuses (.ok now) op ↔ Inadmissible op := by
  have hexact := (run_new hs ops).2
  obtain ⟨hvolumes, hsnapshots⟩ := hvalid.prefixes_free
  have hsettings : (s.run ops).settings = settings := by
    obtain ⟨volumeType, rfl⟩ := new_eq_ok hs
    exact run_settings _ ops
  rw [← hsettings] at hvolumes hsnapshots
  cases op with
  | createVolume name options =>
    obtain ⟨o, rfl⟩ := hzoned
    refine (refused_createVolume_iff hvolumes name o).trans (or_congr_right ?_)
    constructor
    · rintro ⟨scope, hplaced, hmem⟩
      exact ⟨o, scope, rfl, hplaced, hmem⟩
    · rintro ⟨_, scope, hsame, hplaced, hmem⟩
      cases hsame
      exact ⟨scope, hplaced, hmem⟩
  | attachVolume volume node options => exact refused_attachVolume_iff volume node options
  | detachVolume volume options => exact refused_detachVolume_iff volume options
  | removeVolume volume => exact refused_removeVolume_iff volume
  | createSnapshot volume options =>
    exact refused_createSnapshot_iff hexact hsnapshots volume options now
  | deleteSnapshot snapshot => exact refused_deleteSnapshot_iff snapshot
  | getVolume volume => exact refused_withHandle_iff (.ok _)
  | getSnapshot snapshot => exact refused_withHandle_iff (.ok _)
  | listVolumesOf node => exact refused_withHandle_iff (unrefused_lookUp _ _)
  | listSnapshotsOf volume => exact refused_withHandle_iff (unrefused_lookUp _ _)
  | listVolumesIn location => exact iff_of_false (unrefused_lookUp _ _).not_refused id
  | listSnapshotsIn location => exact iff_of_false (unrefused_lookUp _ _).not_refused id
  | listVolumes => exact iff_of_false (Unrefused.ok _).not_refused id
  | listSnapshots => exact iff_of_false (Unrefused.ok _).not_refused id

/-! ## Both -/

/-- What an operation has to stay clear of: a region with a separator in it, wrong options of a
detachment, and an empty location. -/
def Operation.Alike : Operation → Prop
  | createVolume _ (.zonedVolume o) =>
    ∀ scope, placement o = .ok (scope, none) → Handle.separator ∉ scope.toList
  | detachVolume volume options =>
    ∀ v, Handle.decode volume = .ok v → ¬ Refused (detachArguments volume options)
  | listVolumesIn location | listSnapshotsIn location => location.isEmpty = false
  | _ => True

/-- A detachment that is not admitted is refused. -/
theorem detachArguments_cases (volume : String) (options : Options) :
    Refused (detachArguments volume options) ∨ ∃ a, detachArguments volume options = .ok a := by
  cases ht : detachTarget options with
  | error why => exact .inl ⟨why, Lifecycle.detachArguments_of_target ht⟩
  | ok target =>
    cases hs : detachScope volume target.nodeId with
    | error why => exact .inl ⟨why, Lifecycle.detachArguments_eq_error ht hs⟩
    | ok p => exact .inr ⟨_, Lifecycle.detachArguments_eq_ok ht hs⟩

/-- **The store and the flows refuse the same arguments**, if the operation stays clear of three
differences, and only then: whatever has been done to the store, and over any gateway, in any
world. -/
theorem refuse_alike_iff {s : Store} {settings : StoreSettings} (hvalid : settings.Valid)
    (hs : Store.new settings = .ok s) (ops : List Store.Timed) (now : Timestamp) {γ : Type}
    (c : Lifecycle γ) (w : World Event γ) {op : Operation} (hzoned : op.Zoned) :
    ((s.run ops).Refuses (.ok now) op ↔ Lifecycle.RefusesUnasked (c.perform op) w) ↔ op.Alike := by
  rw [Store.refuses_iff hvalid hs ops now hzoned, Lifecycle.refusesUnasked_iff]
  cases op with
  | createVolume name options =>
    obtain ⟨o, rfl⟩ := hzoned
    constructor
    · intro h scope hplaced hmem
      obtain ⟨why, hwhy⟩ := h.mp (.inr ⟨o, scope, rfl, hplaced, hmem⟩)
      rw [creationArguments, hplaced] at hwhy
      cases hwhy
    · intro halike
      refine ⟨?_, .inl⟩
      rintro (hrefused | ⟨_, scope, hsame, hplaced, hmem⟩)
      · exact hrefused
      · cases hsame
        exact absurd hmem (halike scope hplaced)
  | detachVolume volume options =>
    constructor
    · intro h v hv hrefused
      obtain ⟨why, hwhy⟩ := refused_decode_iff.mp (h.mpr hrefused)
      rw [hv] at hwhy
      cases hwhy
    · intro halike
      constructor
      · intro hdecode
        obtain ⟨why, hwhy⟩ := refused_decode_iff.mp hdecode
        rcases detachArguments_cases volume options with hrefused | ⟨⟨target, v, instanceId⟩, hargs⟩
        · exact hrefused
        · have hv := Lifecycle.decode_of_detachArguments hargs
          rw [hwhy] at hv
          cases hv
      · intro hrefused
        cases hv : Handle.decode volume with
        | error why => exact refused_decode_iff.mpr ⟨why, hv⟩
        | ok v => exact absurd hrefused (halike v hv)
  | listVolumesIn location | listSnapshotsIn location =>
    show (False ↔ location.isEmpty = true) ↔ location.isEmpty = false
    cases location.isEmpty <;> simp
  | _ => exact iff_of_true Iff.rfl trivial

/-- Both refuse to attach a volume to a node of another scope. -/
theorem attach_elsewhere_alike :
    let now : Timestamp := ⟨2024, 1, 1, 0, 0, 0, 0, .given 0⟩
    let op : Operation := .attachVolume "us-east-1/vol-1" "eu-west-1/i-1" (.attach ⟨"/dev/sdh"⟩)
    let s : Store := { settings := {}, volumeType := .localDisk }
    StoreSettings.Valid {} ∧ Store.new {} = .ok s ∧ op.Zoned ∧
      ((s.run []).Refuses (.ok now) op ↔
        Lifecycle.RefusesUnasked ((Lifecycle.echo []).perform op) { remote := () }) := by
  have hvalid : StoreSettings.Valid {} := ⟨[], rfl⟩
  have hnew : Store.new {} = .ok { settings := {}, volumeType := .localDisk } := rfl
  intro now op s
  have hzoned : op.Zoned := trivial
  exact ⟨hvalid, hnew, hzoned,
    (refuse_alike_iff hvalid hnew [] now (Lifecycle.echo []) { remote := () } hzoned).mpr trivial⟩

/-- A detachment that names a node by half a handle is refused by the flow, but the store only says
that there is nothing to detach. -/
theorem half_node_not_alike :
    let now : Timestamp := ⟨2024, 1, 1, 0, 0, 0, 0, .given 0⟩
    let ops : List Store.Timed :=
      [(.ok now, .createVolume .null (.zonedVolume { sizeGb := some 8.0, zone := "us-east-1a" })),
        (.ok now, .attachVolume "us-east-1/vol-1" "us-east-1/i-1" (.attach ⟨"/dev/sdh"⟩))]
    let op : Operation := .detachVolume "us-east-1/vol-1" (.detach { nodeId := some "i-1" })
    let s : Store := { settings := {}, volumeType := .localDisk }
    StoreSettings.Valid {} ∧ Store.new {} = .ok s ∧
      ((s.run ops).perform (.ok now) op).answer = .ok false ∧
      Lifecycle.RefusesUnasked ((Lifecycle.echo []).perform op) { remote := () } :=
  ⟨⟨[], rfl⟩, rfl, rfl, (Lifecycle.refusesUnasked_iff _ _ _).mpr ⟨_, rfl⟩⟩

end BlockStorage
