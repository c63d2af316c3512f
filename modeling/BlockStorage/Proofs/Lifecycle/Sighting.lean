import BlockStorage.Proofs.Handle
import BlockStorage.Proofs.Lifecycle.Detach

/-!
# What a success has sighted

A provider acknowledges a change before it has taken effect. A flow that answers with
a new volume, a new snapshot or a successful attachment has therefore sighted the
state that it was to wait for: in the answer to its change, or in a later look. What
an answer shows besides, gaps and foreign records, does not count.

* `Wait.Course.sightings`: what a wait that ends well has sighted, in order, by
  induction on its course.
* `Sighted`: a good state was sighted, and no bad one before it.
* `Lifecycle.VolumeSighted`, `Lifecycle.SnapshotSighted`,
  `Lifecycle.AttachmentSighted`: what stands behind each kind of success.
* `Lifecycle.success_sighted`: all of it, for every gateway.
-/

namespace BlockStorage

/-! ## Sightings -/

/-- What an exchange shows of the volume with a local id: the volume that was made, or the first
one with that id among those of an answer. -/
def Exchange.volume? (id : String) : Exchange → Option RemoteVolume
  | ⟨.createVolume _ _ _, .ok v⟩ => if v.volumeId = id then some v else none
  | ⟨.restoreVolume _ _ _ _, .ok v⟩ => if v.volumeId = id then some v else none
  | ⟨.describeVolumes _ _, .ok answers⟩ => Lifecycle.volumeAmong id answers
  | _ => none

/-- What an exchange shows of the snapshot with a local id. -/
def Exchange.snapshot? (id : String) : Exchange → Option RemoteSnapshot
  | ⟨.createSnapshot _ _ _, .ok s⟩ => if s.snapshotId = id then some s else none
  | ⟨.describeSnapshots _ _ _, .ok answers⟩ => Lifecycle.snapshotAmong id answers
  | _ => none

/-- What came back when a volume was to be made, if that was asked for. -/
def Exchange.creation? : Exchange → Option (Except Fault RemoteVolume)
  | ⟨.createVolume _ _ _, outcome⟩ => some outcome
  | ⟨.restoreVolume _ _ _ _, outcome⟩ => some outcome
  | _ => none

/-- What came back when a snapshot was to be made, if that was asked for. -/
def Exchange.copy? : Exchange → Option (Except Fault RemoteSnapshot)
  | ⟨.createSnapshot _ _ _, outcome⟩ => some outcome
  | _ => none

/-- A good state was sighted, and no bad one before it. -/
def Sighted {τ : Type} (good bad : τ → Bool) (states : List τ) : Prop :=
  ∃ before state after, states = before ++ state :: after ∧ good state = true ∧
    ∀ s ∈ before, bad s = false

theorem Sighted.append {τ : Type} {good bad : τ → Bool} {states : List τ}
    (h : Sighted good bad states) (more : List τ) : Sighted good bad (states ++ more) := by
  obtain ⟨before, state, after, rfl, hgood, hbad⟩ := h
  refine ⟨before, state, after ++ more, ?_, hgood, hbad⟩
  rw [List.append_assoc, List.cons_append]

namespace Wait

variable {τ σ κ : Type} [Viewed τ] {w : Wait τ} {Fetches : τ → List σ → Except Fault τ → Prop}

/-- A wait that ends well has sighted, one after the other, the state that it began with and those
that its fetches found. The last one was ready, and those before it were undecided. The states are
all of one thing, which the fetches are told to look at. -/
theorem Course.sightings {key : τ → κ} {sight : κ → σ → Option τ}
    (hfetch : ∀ t es s, Fetches t es (.ok s) → es.filterMap (sight (key t)) = [s] ∧ key s = key t)
    {left used total : Nat} {first last : τ} {es : List σ}
    (h : w.Course Fetches left used first es (.ready last) total) :
    key last = key first ∧ w.ready last = true ∧ ∃ before,
      first :: es.filterMap (sight (key first)) = before ++ [last] ∧
        ∀ s ∈ before, w.Undecided s := by
  generalize hends : Ending.ready last = ending at h
  induction h with
  | failed _ => cases hends
  | exhausted _ => cases hends
  | cancelled _ => cases hends
  | gone _ _ _ => cases hends
  | broken _ _ _ => cases hends
  | ready _ h =>
    cases hends
    exact ⟨rfl, h, [], rfl, fun s hs => absurd hs List.not_mem_nil⟩
  | @fetched left used total first state es fs ending hundecided hlook _ ih =>
    obtain ⟨hseen, hkey⟩ := hfetch _ _ _ hlook
    obtain ⟨hlast, hready, before, hbefore, hall⟩ := ih hends
    rw [hkey] at hlast hbefore
    refine ⟨hlast, hready, first :: before, ?_, fun s hs => ?_⟩
    · rw [List.filterMap_append, hseen, List.singleton_append, hbefore, List.cons_append]
    · rcases List.mem_cons.mp hs with rfl | hs
      · exact hundecided
      · exact hall s hs

/-- Only a wait for something to be gone ends with that. -/
theorem Course.goneIsReady {left used total : Nat} {first : τ} {es : List σ}
    (h : w.Course Fetches left used first es .gone total) : w.goneIsReady = true := by
  generalize hends : Ending.gone = ending at h
  induction h with
  | failed _ => cases hends
  | ready _ _ => cases hends
  | exhausted _ => cases hends
  | cancelled _ => cases hends
  | broken _ _ _ => cases hends
  | gone _ _ hgone => exact hgone.2
  | fetched _ _ _ ih => exact ih hends

/-- A wait that need not end with something gone, and ends well, has sighted what it waited for. -/
theorem Settles.sighted (key : τ → κ) (sight : κ → σ → Option τ)
    (hfetch : ∀ t es s, Fetches t es (.ok s) → es.filterMap (sight (key t)) = [s] ∧ key s = key t)
    (hgone : w.goneIsReady = false) {first : τ} {es : List σ} {answer : Option τ}
    (h : w.Settles Fetches first es (.ok answer)) :
    (∃ last, answer = some last ∧ key last = key first) ∧
      Sighted w.ready w.failed (first :: es.filterMap (sight (key first))) := by
  obtain ⟨ending, total, hcourse, hanswer⟩ := h
  cases ending with
  | ready last =>
    obtain ⟨hkey, hready, before, hbefore, hall⟩ := hcourse.sightings hfetch
    exact ⟨⟨last, Except.ok.inj hanswer, hkey⟩, before, last, [], hbefore, hready,
      fun s hs => (hall s hs).1⟩
  | gone => exact absurd hcourse.goneIsReady (by rw [hgone]; exact Bool.false_ne_true)
  | exhausted _ => cases hanswer
  | failedState _ => cases hanswer
  | stopped _ => cases hanswer

end Wait

namespace Lifecycle

variable {γ : Type} {c : Lifecycle γ}

/-! ## Looks -/

/-- A snapshot that a look has found is among those of its answer. -/
theorem among_of_foundSnapshot {id : String}
    {outcome : Except Fault (List (Option RemoteSnapshot))} {s : RemoteSnapshot}
    (h : foundSnapshot id outcome = .ok (some s)) :
    ∃ answers, outcome = .ok answers ∧ snapshotAmong id answers = some s := among_of_found h

/-- What is not missing was found. -/
theorem found_of_orMissing_ok {ρ : Type} {scope id : String} {found : Except Fault (Option ρ)}
    {a : ρ} (h : .ok a = orMissing scope id found) : found = .ok (some a) := by
  cases found with
  | error f => cases h
  | ok o =>
    cases o with
    | none => cases h
    | some b =>
      obtain rfl : a = b := Except.ok.inj h
      rfl

/-- A look at a volume that finds it shows it, and under the same id. -/
theorem VolumeLook.shows {v u : RemoteVolume} {xs : List Exchange}
    (h : VolumeLook v xs (.ok u)) :
    xs.filterMap (Exchange.volume? v.volumeId) = [u] ∧ u.volumeId = v.volumeId := by
  obtain ⟨outcome, rfl, hr⟩ := h
  obtain ⟨answers, rfl, hu⟩ := among_of_foundVolume (found_of_orMissing_ok hr)
  refine ⟨?_, (volumeAmong_some hu).2⟩
  rw [List.filterMap_cons, Exchange.volume?, hu]
  rfl

/-- A look at a snapshot that finds it shows it, and under the same id. -/
theorem SnapshotLook.shows {s t : RemoteSnapshot} {xs : List Exchange}
    (h : SnapshotLook s xs (.ok t)) :
    xs.filterMap (Exchange.snapshot? s.snapshotId) = [t] ∧ t.snapshotId = s.snapshotId := by
  obtain ⟨outcome, rfl, hr⟩ := h
  obtain ⟨answers, rfl, ht⟩ := among_of_foundSnapshot (found_of_orMissing_ok hr)
  refine ⟨?_, (snapshotAmong_some ht).2⟩
  rw [List.filterMap_cons, Exchange.snapshot?, ht]
  rfl

/-- The looks of a wait for a volume make nothing. -/
theorem filterMap_creation?_of_settles {w : Wait RemoteVolume} {first : RemoteVolume}
    {xs : List Exchange} {r : Except Fault (Option RemoteVolume)}
    (h : w.Settles VolumeLook first xs r) : xs.filterMap Exchange.creation? = [] := by
  refine List.filterMap_eq_nil_iff.mpr (h.forall_mem fun v ys s hlook x hx => ?_)
  obtain ⟨outcome, rfl, -⟩ := hlook
  obtain rfl := List.mem_singleton.mp hx
  rfl

/-- The looks of a wait for a snapshot make nothing. -/
theorem filterMap_copy?_of_settles {w : Wait RemoteSnapshot} {first : RemoteSnapshot}
    {xs : List Exchange} {r : Except Fault (Option RemoteSnapshot)}
    (h : w.Settles SnapshotLook first xs r) : xs.filterMap Exchange.copy? = [] := by
  refine List.filterMap_eq_nil_iff.mpr (h.forall_mem fun s ys t hlook x hx => ?_)
  obtain ⟨outcome, rfl, -⟩ := hlook
  obtain rfl := List.mem_singleton.mp hx
  rfl

/-! ## A new volume -/

/-- What stands behind a new volume: it was made once, it was sighted as available before it ever
was in an error, and it is what the last look shows. -/
structure VolumeSighted (created : RemoteVolume) (xs : List Exchange) (volume : Volume) :
    Prop where
  made : xs.filterMap Exchange.creation? = [.ok created]
  sighted : Sighted RemoteVolume.isAvailable RemoteVolume.isFailed
    (xs.filterMap (Exchange.volume? created.volumeId))
  last : ∃ answers final,
    xs.getLast? = some ⟨.describeVolumes created.scope [created.volumeId], .ok answers⟩ ∧
    volumeAmong created.volumeId answers = some final ∧ final.toVolume = .ok volume

/-- A look at a source that precedes an order does not count. -/
theorem VolumeSighted.cons {created : RemoteVolume} {xs : List Exchange} {volume : Volume}
    (h : VolumeSighted created xs volume) {x : Exchange} (hmade : x.creation? = none)
    (hshown : x.volume? created.volumeId = none) :
    VolumeSighted created (x :: xs) volume := by
  constructor
  · rw [List.filterMap_cons, hmade]
    exact h.made
  · rw [List.filterMap_cons, hshown]
    exact h.sighted
  · obtain ⟨answers, final, hlast, hfinal⟩ := h.last
    refine ⟨answers, final, ?_, hfinal⟩
    rw [List.getLast?_cons, hlast]
    rfl

theorem finalVolume_eq_some {created : RemoteVolume}
    {outcome : Except Fault (List (Option RemoteVolume))} {volume : Volume}
    (h : finalVolume created (foundVolume created.volumeId outcome) = .ok (some volume)) :
    ∃ answers final, outcome = .ok answers ∧ volumeAmong created.volumeId answers = some final ∧
      final.toVolume = .ok volume := by
  cases hfound : foundVolume created.volumeId outcome with
  | error f =>
    rw [hfound] at h
    cases h
  | ok found =>
    rw [hfound] at h
    cases found with
    | none =>
      rw [finalVolume] at h
      cases hid : Handle.encode created.scope created.volumeId with
      | error why =>
        rw [hid] at h
        cases h
      | ok handle =>
        rw [hid] at h
        cases h
    | some final =>
      obtain ⟨answers, rfl, hamong⟩ := among_of_foundVolume hfound
      refine ⟨answers, final, rfl, hamong, ?_⟩
      rw [finalVolume] at h
      cases hv : final.toVolume with
      | error why =>
        rw [hv] at h
        cases h
      | ok volume' =>
        rw [hv] at h
        cases h
        rfl

/-- An order that leads to a volume. -/
theorem Ordered.sighted {order : Exchange} {outcome : Except Fault RemoteVolume}
    {xs : List Exchange} {volume : Volume} (h : Ordered c [order] outcome xs (.ok (some volume)))
    (hmade : order.creation? = some outcome)
    (hshown : ∀ created, outcome = .ok created →
      order.volume? created.volumeId = some created) :
    ∃ created, VolumeSighted created xs volume := by
  generalize hends : (Except.ok (some volume) : Except Fault (Option Volume)) = r at h
  cases h with
  | refused => cases hends
  | unsettled _ => cases hends
  | @settled waited created last hwait look =>
    obtain ⟨answers, final, rfl, hamong, hvolume⟩ := finalVolume_eq_some hends.symm
    obtain ⟨-, hsighted⟩ := hwait.sighted RemoteVolume.volumeId Exchange.volume?
      (fun _ _ _ hlook => hlook.shows) rfl
    refine ⟨created, ?_, ?_, ?_⟩
    · rw [List.filterMap_append, List.filterMap_append, filterMap_creation?_of_settles hwait,
        List.filterMap_cons, hmade]
      rfl
    · rw [List.filterMap_append, List.filterMap_append, ← List.append_assoc,
        List.filterMap_cons, hshown created rfl]
      exact hsighted.append _
    · refine ⟨answers, final, ?_, hamong, hvolume⟩
      rw [← List.append_assoc, List.getLast?_concat]

theorem Creation.sighted {o : ZonedVolumeOptions} {scope : String} {source : Option Handle}
    {xs : List Exchange} {volume : Volume}
    (h : Creation c o scope source xs (.ok (some volume))) :
    ∃ created, VolumeSighted created xs volume := by
  generalize hr : (Except.ok (some volume) : Except Fault (Option Volume)) = r at h
  cases h with
  | fresh outcome hordered =>
    subst hr
    refine hordered.sighted rfl ?_
    rintro created rfl
    exact if_pos rfl
  | restored hopened =>
    obtain ⟨look, hopened⟩ := hopened
    cases hopened with
    | lost _ => cases hr
    | missing _ => cases hr
    | found _ hrest =>
      subst hr
      obtain ⟨outcome, hordered⟩ := hrest
      obtain ⟨created, hsighted⟩ := hordered.sighted rfl (by
        rintro created rfl
        exact if_pos rfl)
      exact ⟨created, hsighted.cons rfl rfl⟩

/-! ## A new snapshot -/

/-- What stands behind a new snapshot of a volume: it was made once, it was sighted as completed
before it ever was in an error, and its size is the one that the first look at the volume shows. -/
structure SnapshotSighted (volume : String) (pending : RemoteSnapshot) (xs : List Exchange)
    (snapshot : Snapshot) : Prop where
  made : xs.filterMap Exchange.copy? = [.ok pending]
  sighted : Sighted RemoteSnapshot.isCompleted RemoteSnapshot.isFailed
    (xs.filterMap (Exchange.snapshot? pending.snapshotId))
  named : ∃ scope, Handle.decode snapshot.id = .ok ⟨scope, pending.snapshotId⟩
  sized : ∃ v answers source, Handle.decode volume = .ok v ∧
    xs.head? = some ⟨.describeVolumes v.scope [v.localId], .ok answers⟩ ∧
    volumeAmong v.localId answers = some source ∧ snapshot.sizeGb = some source.sizeGb

/-- A snapshot has the id of the record that it is made of, and the size that is given. -/
theorem toSnapshot_eq_ok {s : RemoteSnapshot} {sizeGb : Float} {snapshot : Snapshot}
    (h : s.toSnapshot (some sizeGb) = .ok snapshot) :
    Handle.decode snapshot.id = .ok ⟨s.scope, s.snapshotId⟩ ∧ snapshot.sizeGb = some sizeGb := by
  rw [RemoteSnapshot.toSnapshot] at h
  cases hid : Handle.encode s.scope s.snapshotId with
  | error why =>
    rw [hid] at h
    cases h
  | ok id =>
    rw [hid] at h
    cases hvolume : Handle.encode s.scope s.volumeId with
    | error why =>
      rw [hvolume] at h
      cases h
    | ok volume =>
      rw [hvolume] at h
      cases h
      exact ⟨Handle.decode_encode hid, rfl⟩

/-- The record that a snapshot is made of has the id of the snapshot that was awaited. -/
theorem finalSnapshot_eq_some {source : RemoteVolume} {pending completed : RemoteSnapshot}
    {outcome : Except Fault (List (Option RemoteSnapshot))} {snapshot : Snapshot}
    (hid : completed.snapshotId = pending.snapshotId)
    (h : finalSnapshot source pending (some completed)
      (foundSnapshot pending.snapshotId outcome) = .ok (some snapshot)) :
    ∃ remote : RemoteSnapshot, remote.snapshotId = pending.snapshotId ∧
      remote.toSnapshot (some source.sizeGb) = .ok snapshot := by
  have hok : ∀ {s : RemoteSnapshot}, ((s.toSnapshot (some source.sizeGb)).map some).mapError
      Fault.argument = .ok (some snapshot) → s.toSnapshot (some source.sizeGb) = .ok snapshot := by
    intro s hs
    cases hmade : s.toSnapshot (some source.sizeGb) with
    | error why =>
      rw [hmade] at hs
      cases hs
    | ok snapshot' =>
      rw [hmade] at hs
      cases hs
      rfl
  cases hfound : foundSnapshot pending.snapshotId outcome with
  | error f =>
    rw [hfound] at h
    cases h
  | ok found =>
    rw [hfound] at h
    cases found with
    | none => exact ⟨completed, hid, hok h⟩
    | some final =>
      obtain ⟨answers, -, hamong⟩ := among_of_foundSnapshot hfound
      exact ⟨final, (snapshotAmong_some hamong).2, hok h⟩

theorem sighted_of_createSnapshot {volume : String} {options : Options} {xs : List Exchange}
    {snapshot : Snapshot}
    (h : Admitted ((Handle.decode volume).mapError .argument)
      (fun v => OpenedByVolume v none (Copying c v options)) xs (.ok (some snapshot))) :
    ∃ pending, SnapshotSighted volume pending xs snapshot := by
  generalize hr : (Except.ok (some snapshot) : Except Fault (Option Snapshot)) = r at h
  cases h with
  | refused _ => cases hr
  | @admitted v _ _ hargs hrest =>
    obtain ⟨look, hopened⟩ := hrest
    cases hopened with
    | lost _ => cases hr
    | missing _ => cases hr
    | @found source _ _ hsource hrest =>
      cases hrest with
      | unnamed _ => cases hr
      | refused _ f =>
        rw [orNone] at hr
        split at hr <;> cases hr
      | unsettled _ _ => cases hr
      | @settled name _ pending waited last hwait outcome =>
        obtain ⟨answers, rfl, hamong⟩ := among_of_foundVolume hsource
        obtain ⟨⟨completed, rfl, hid⟩, hsighted⟩ :=
          hwait.sighted RemoteSnapshot.snapshotId Exchange.snapshot?
            (fun _ _ _ hlook => hlook.shows) rfl
        obtain ⟨remote, hremote, hmade⟩ := finalSnapshot_eq_some hid hr.symm
        obtain ⟨hhandle, hsize⟩ := toSnapshot_eq_ok hmade
        refine ⟨pending, ?_, ?_, ⟨remote.scope, hremote ▸ hhandle⟩,
          v, answers, source, ?_, rfl, hamong, hsize⟩
        · rw [List.filterMap_cons, List.filterMap_cons, List.filterMap_append,
            filterMap_copy?_of_settles hwait]
          rfl
        · rw [List.filterMap_cons, List.filterMap_cons, List.filterMap_append]
          simp only [Exchange.snapshot?, if_true]
          exact hsighted.append _
        · cases hv : Handle.decode volume with
          | error why =>
            rw [hv] at hargs
            cases hargs
          | ok v' =>
            rw [hv] at hargs
            cases hargs
            rfl

/-! ## An attachment -/

/-- The last look at a volume shows an attachment by a device to an instance as attached. -/
def SeenAttached (v : Handle) (device instanceId : String) (xs : List Exchange) : Prop :=
  ∃ answers remote first, xs.getLast? = some ⟨.describeVolumes v.scope [v.localId], .ok answers⟩ ∧
    volumeAmong v.localId answers = some remote ∧
    remote.attachment? (some device) (some instanceId) = some first ∧ first.status = .attached

/-- What stands behind an attachment: the answer to the request says attached, or the last look at
the volume that the answer names shows it so. -/
structure AttachmentSighted (volume : String) (a : RemoteAttachment) (xs : List Exchange) :
    Prop where
  asked : ∃ v node device, Handle.decode volume = .ok v ∧
    xs.head? = some ⟨.attachVolume v.scope v.localId node device, .ok a⟩
  sighted : a.status = .attached ∨ ∃ v, Handle.decode volume = .ok v ∧
    SeenAttached ⟨v.scope, a.volumeId⟩ a.device a.instanceId xs

/-- An attachment that a volume does not show is not attached yet. -/
theorem shown_of_isAttached {a : RemoteAttachment} {v : RemoteVolume}
    (h : (attachmentOn .attaching a v).status = .attached) :
    ∃ first, v.attachment? (some a.device) (some a.instanceId) = some first ∧
      first.status = .attached := by
  rw [attachmentOn] at h
  cases hshown : v.attachment? (some a.device) (some a.instanceId) with
  | none =>
    rw [hshown] at h
    cases h
  | some first =>
    rw [hshown] at h
    exact ⟨first, rfl, h⟩

/-- What the wait of an attach has seen when it ends well: the answer itself said attached, or the
last look shows the attachment so. -/
theorem seenAttached_of_course {w : Wait RemoteAttachment}
    (hready : w.ready = RemoteAttachment.isAttached) (hgone : w.goneIsReady = false) {v : Handle}
    {device instanceId : String} {left used total : Nat} {a : RemoteAttachment}
    {xs : List Exchange} {ending : Ending RemoteAttachment} {last : Option RemoteAttachment}
    (h : w.Course (AttachmentLook v.scope .attaching) left used a xs ending total)
    (hends : w.answer total ending = .ok last) (ha : Names a v device instanceId)
    (hxs : ∀ x ∈ xs, x.ShowsOnly fun u => ∀ b ∈ u.attachments, b.volumeId = u.volumeId) :
    (xs = [] ∧ a.status = .attached) ∨ SeenAttached v device instanceId xs := by
  induction h with
  | failed _ => cases hends
  | exhausted _ => cases hends
  | cancelled _ => cases hends
  | broken _ _ _ => cases hends
  | gone _ _ hwhy => exact absurd hwhy.2 (by rw [hgone]; exact Bool.false_ne_true)
  | ready _ h =>
    rw [hready] at h
    exact Or.inl ⟨rfl, of_decide_eq_true h⟩
  | @fetched left used total a state xs ys ending _ hlook hrest ih =>
    obtain ⟨outcome, rfl, hr⟩ := hlook
    obtain ⟨remote, hfound, rfl⟩ := found_of_orMissing hr
    obtain ⟨answers, rfl, hremote⟩ := among_of_foundVolume hfound
    have hown := hxs _ (List.mem_append_left _ List.mem_cons_self) _ _ _ rfl _
      (volumeAmong_some hremote).1
    have hid : remote.volumeId = v.localId := (volumeAmong_some hremote).2.trans ha.volume
    have hnames := ha.attachmentOn hid hown .attaching
    right
    rcases ih hends hnames fun x hx => hxs x (List.mem_append_right _ hx) with ⟨rfl, hd⟩ | hlater
    · obtain ⟨first, hfirst, hstatus⟩ := shown_of_isAttached hd
      rw [ha.volume] at hremote ⊢
      rw [ha.device, ha.instanceId] at hfirst
      exact ⟨answers, remote, first, rfl, hremote, hfirst, hstatus⟩
    · obtain ⟨answers', remote', first, hlast, hseen⟩ := hlater
      refine ⟨answers', remote', first, ?_, hseen⟩
      rw [List.getLast?_append, hlast]
      rfl

theorem decode_of_attachArguments {volume node device : String} {options : Options} {v n : Handle}
    (h : attachArguments volume node options = .ok (device, v, n)) :
    Handle.decode volume = .ok v := by
  cases hd : options.requiredDevice with
  | error f =>
    rw [attachArguments, hd] at h
    cases h
  | ok d =>
    cases hs : Handle.sameScope volume node with
    | error why =>
      rw [attachArguments, hd, hs] at h
      cases h
    | ok p =>
      rw [attachArguments, hd, hs] at h
      cases h
      exact decode_of_sameScope hs

theorem sighted_of_attachVolume {volume node : String} {options : Options} {xs : List Exchange}
    (h : Admitted (attachArguments volume node options) (fun d => Attaching c d.1 d.2.1 d.2.2) xs
      (.ok true))
    (hxs : ∀ x ∈ xs, x.ShowsOnly fun u => ∀ b ∈ u.attachments, b.volumeId = u.volumeId) :
    ∃ a, AttachmentSighted volume a xs := by
  generalize hr : (Except.ok true : Except Fault Bool) = r at h
  cases h with
  | refused _ => cases hr
  | @admitted d _ _ hargs hrest =>
    obtain ⟨device, v, n⟩ := d
    have hv := decode_of_attachArguments hargs
    cases hrest with
    | refused f =>
      rw [unlessMissing] at hr
      split at hr <;> cases hr
    | @waited a waited r hwait =>
      refine ⟨a, ⟨v, n.localId, device, hv, rfl⟩, ?_⟩
      cases r with
      | error f =>
        rw [unlessMissing] at hr
        split at hr <;> cases hr
      | ok last =>
        obtain ⟨ending, total, hcourse, hanswer⟩ := hwait
        rcases seenAttached_of_course (v := ⟨v.scope, a.volumeId⟩) rfl rfl hcourse hanswer.symm
          ⟨rfl, rfl, rfl⟩ (fun x hx => hxs x (List.mem_cons_of_mem _ hx)) with
          ⟨-, hstatus⟩ | ⟨answers, remote, first, hlast, hseen⟩
        · exact Or.inl hstatus
        · refine Or.inr ⟨v, hv, answers, remote, first, ?_, hseen⟩
          rw [List.getLast?_cons, hlast]
          rfl

/-! ## Successes -/

theorem sighted_of_createVolume {options : Options} {xs : List Exchange} {volume : Volume}
    (h : Admitted (creationArguments options) (fun a => Creation c a.1 a.2.1 a.2.2) xs
      (.ok (some volume))) : ∃ created, VolumeSighted created xs volume := by
  generalize hr : (Except.ok (some volume) : Except Fault (Option Volume)) = r at h
  cases h with
  | refused _ => cases hr
  | admitted _ hrest =>
    subst hr
    exact hrest.sighted

/-- **What succeeds has sighted what it waits for.** Whatever the gateway answers, gaps and foreign
records included, a new volume was sighted as available and a new snapshot as completed before
either was in an error. Where volumes show attachments of their own, so does the last look before
an attachment counts as made, unless the answer itself said so. -/
theorem success_sighted (c : Lifecycle γ) (w : World Event γ) :
    (∀ name options volume, ((c.createVolume name options).run w).1 = .ok (some volume) →
      ∃ own created, w.Wrote own ((c.createVolume name options).run w).2 ∧
        VolumeSighted created (Event.exchanges own) volume) ∧
    (∀ volume options snapshot, ((c.createSnapshot volume options).run w).1 = .ok (some snapshot) →
      ∃ own pending, w.Wrote own ((c.createSnapshot volume options).run w).2 ∧
        SnapshotSighted volume pending (Event.exchanges own) snapshot) ∧
    (∀ volume node options, ((c.attachVolume volume node options).run w).1 = .ok true →
      ∃ own, w.Wrote own ((c.attachVolume volume node options).run w).2 ∧
        ((∀ x ∈ Event.exchanges own,
            x.ShowsOnly fun u => ∀ b ∈ u.attachments, b.volumeId = u.volumeId) →
          ∃ a, AttachmentSighted volume a (Event.exchanges own))) := by
  refine ⟨fun name options volume hr => ?_, fun volume options snapshot hr => ?_,
    fun volume node options hr => ?_⟩
  · obtain ⟨own, hwrote, -, hstory⟩ := (tells_createVolume c name options).wrote w
    rw [hr] at hstory
    obtain ⟨created, hsighted⟩ := sighted_of_createVolume hstory
    exact ⟨own, created, hwrote, hsighted⟩
  · obtain ⟨own, hwrote, -, hstory⟩ := (tells_createSnapshot c volume options).wrote w
    rw [hr] at hstory
    obtain ⟨pending, hsighted⟩ := sighted_of_createSnapshot hstory
    exact ⟨own, pending, hwrote, hsighted⟩
  · obtain ⟨own, hwrote, -, hstory⟩ := (tells_attachVolume c volume node options).wrote w
    rw [hr] at hstory
    exact ⟨own, hwrote, fun hxs => sighted_of_attachVolume hstory hxs⟩

/-- What a provider answers whose changes have taken effect by the first look. -/
def swiftReply : (r : Request) → Except Fault r.Answer
  | .createVolume scope size zone => match size with
    | .real gb => .ok ⟨scope, "vol-1", gb, zone, .creating, [], none, none⟩
    | _ => .error .aborted
  | .describeVolumes scope _ => .ok [none,
      some ⟨scope, "vol-0", 1.0, "us-east-1a", .error, [], none, none⟩,
      some ⟨scope, "vol-1", 8.0, "us-east-1a", .available,
        [⟨"vol-1", "i-1", "/dev/sdh", .attached⟩], none, none⟩]
  | .attachVolume _ id instanceId device => .ok ⟨id, instanceId, device, .attaching⟩
  | .createSnapshot scope id _ => .ok ⟨scope, "snap-1", id, 0.0, .pending, "", none⟩
  | .describeSnapshots scope _ _ =>
    .ok [some ⟨scope, "snap-1", "vol-1", 1.0, .completed, "", none⟩]
  | _ => .error .aborted

/-- The flows over that provider. -/
def swift : Lifecycle Unit where
  gateway := .prompt swiftReply
  budgets := { maxAttempts := 1, delay := 0.0 }

theorem eq_ok_of_isSome {α : Type} {r : Except Fault (Option α)}
    (h : r.toOption.join.isSome = true) : ∃ a, r = .ok (some a) := by
  cases r with
  | error f => cases h
  | ok o =>
    cases o with
    | none => cases h
    | some a => exact ⟨a, rfl⟩

/-- That provider shows only attachments of the volume that holds them. -/
theorem swift_showsOnly {x : Exchange} (hx : swift.Answers x) :
    x.ShowsOnly fun u => ∀ b ∈ u.attachments, b.volumeId = u.volumeId := by
  rintro scope ids answers rfl u hu b hb
  have hprompt : swift.gateway = .prompt swiftReply := rfl
  have hanswer := Except.ok.inj (outcome_of_answers hprompt hx)
  rw [hanswer] at hu
  simp only [List.mem_cons, Option.some.injEq, reduceCtorEq, List.not_mem_nil, or_false,
    false_or] at hu
  rcases hu with rfl | rfl
  · exact absurd hb List.not_mem_nil
  · rw [List.mem_singleton.mp hb]

/-- All three succeed over that provider, each with what stands behind it. -/
theorem swift_success_sighted :
    (∃ volume own created, ((swift.createVolume .null (.zonedVolume
        { sizeGb := some 8.0, zone := "us-east-1a" })).run { remote := () }).1 =
          .ok (some volume) ∧
      VolumeSighted created (Event.exchanges own) volume) ∧
    (∃ snapshot own pending, ((swift.createSnapshot "us-east-1/vol-1" (.other .null)).run
        { remote := () }).1 = .ok (some snapshot) ∧
      SnapshotSighted "us-east-1/vol-1" pending (Event.exchanges own) snapshot) ∧
    (∃ own a, ((swift.attachVolume "us-east-1/vol-1" "us-east-1/i-1" (.attach ⟨"/dev/sdh"⟩)).run
        { remote := () }).1 = .ok true ∧
      AttachmentSighted "us-east-1/vol-1" a (Event.exchanges own)) := by
  obtain ⟨hvolume, hsnapshot, hattached⟩ := success_sighted swift { remote := () }
  refine ⟨?_, ?_, ?_⟩
  · obtain ⟨volume, hok⟩ := eq_ok_of_isSome (r := ((swift.createVolume .null (.zonedVolume
      { sizeGb := some 8.0, zone := "us-east-1a" })).run { remote := () }).1) (by decide +kernel)
    obtain ⟨own, created, -, hsighted⟩ := hvolume _ _ _ hok
    exact ⟨volume, own, created, hok, hsighted⟩
  · obtain ⟨snapshot, hok⟩ := eq_ok_of_isSome (r := ((swift.createSnapshot "us-east-1/vol-1"
      (.other .null)).run { remote := () }).1) (by decide +kernel)
    obtain ⟨own, pending, -, hsighted⟩ := hsnapshot _ _ _ hok
    exact ⟨snapshot, own, pending, hok, hsighted⟩
  · have hok := eq_ok_of_toOption (r := ((swift.attachVolume "us-east-1/vol-1" "us-east-1/i-1"
      (.attach ⟨"/dev/sdh"⟩)).run { remote := () }).1) (a := true) (by decide +kernel)
    obtain ⟨own, hwrote, hsighted⟩ := hattached _ _ _ hok
    obtain ⟨own', hwrote', hanswers, -⟩ := (tells_attachVolume swift "us-east-1/vol-1"
      "us-east-1/i-1" (.attach ⟨"/dev/sdh"⟩)).wrote { remote := () }
    obtain rfl : own = own' := List.append_cancel_left
      ((hwrote.journal_eq rfl).symm.trans (hwrote'.journal_eq rfl))
    obtain ⟨a, ha⟩ := hsighted fun x hx => swift_showsOnly (hanswers x hx)
    exact ⟨own, a, hok, ha⟩

end Lifecycle

end BlockStorage
