import BlockStorage.Gateway.Ec2
import BlockStorage.Proofs.Handle
import BlockStorage.Proofs.Lifecycle.Flows
import BlockStorage.Proofs.Lifecycle.Prompt

/-!
# What a successful detach has seen

A detach picks an attachment from a look at the volume and names it in its request.
It then waits, though, for the attachment that the answer to that request names, and
an attachment that the volume does not show counts as detached. So a success tells
that the picked attachment is gone only where the answer names that attachment.

* `Lifecycle.Released`: the picked attachment is gone at the last look.
* `Lifecycle.released_of_course`: the wait for an attachment sees that it is gone, by
  induction on its course.
* `Lifecycle.AnswerSuffices`: after this answer, no detach succeeds without having seen it.
* `Lifecycle.detach_sound_iff_answer_names`: which answers suffice.
-/

namespace BlockStorage

/-- What a look at a volume came to, if the exchange is one. -/
def Exchange.look? (scope id : String) :
    Exchange → Option (Except Fault (List (Option RemoteVolume)))
  | ⟨.describeVolumes s ids, outcome⟩ => if s = scope ∧ ids = [id] then some outcome else none
  | _ => none

/-- What the last look at a volume came to. -/
def Exchange.lastLook? (scope id : String) (xs : List Exchange) :
    Option (Except Fault (List (Option RemoteVolume))) :=
  (xs.filterMap (look? scope id)).getLast?

theorem Exchange.of_look? {scope id : String} {x : Exchange}
    {outcome : Except Fault (List (Option RemoteVolume))} (h : x.look? scope id = some outcome) :
    x = ⟨.describeVolumes scope [id], outcome⟩ := by
  obtain ⟨r, answer⟩ := x
  cases r with
  | describeVolumes s ids =>
    rw [look?] at h
    split at h
    · next hids =>
      obtain ⟨rfl, rfl⟩ := hids
      obtain rfl := Option.some.inj h
      rfl
    · cases h
  | _ => cases h

theorem Exchange.lastLook?_append {scope id : String} (xs : List Exchange) {ys : List Exchange}
    {outcome : Except Fault (List (Option RemoteVolume))}
    (h : lastLook? scope id ys = some outcome) : lastLook? scope id (xs ++ ys) = some outcome := by
  rw [lastLook?] at h
  rw [lastLook?, List.filterMap_append, List.getLast?_append, h]
  rfl

theorem Exchange.lastLook?_singleton (scope id : String)
    (outcome : Except Fault (List (Option RemoteVolume))) :
    lastLook? scope id [⟨.describeVolumes scope [id], outcome⟩] = some outcome := by
  rw [lastLook?, List.filterMap_cons, look?, if_pos ⟨rfl, rfl⟩]
  rfl

/-- A volume that shows each of its attachments once, and as its own. -/
structure RemoteVolume.ShowsOnce (v : RemoteVolume) : Prop where
  own : ∀ a ∈ v.attachments, a.volumeId = v.volumeId
  once : v.attachments.Pairwise fun a b => ¬ (a.device = b.device ∧ a.instanceId = b.instanceId)

/-- Where the first attachment by a device to an instance is detached, so are all others by that
device to that instance. -/
def RemoteVolume.FirstTells (v : RemoteVolume) (device instanceId : String) : Prop :=
  ∀ first, v.attachment? (some device) (some instanceId) = some first → first.status = .detached →
    ∀ a ∈ v.attachments, a.device = device → a.instanceId = instanceId → a.status = .detached

/-- Two attachments that are shown once, by one device to one instance, are the same. -/
theorem RemoteVolume.ShowsOnce.eq {v : RemoteVolume} (h : v.ShowsOnce) {a b : RemoteAttachment}
    (ha : a ∈ v.attachments) (hb : b ∈ v.attachments) (hdevice : a.device = b.device)
    (hinstance : a.instanceId = b.instanceId) : a = b := by
  have honce := h.once
  generalize v.attachments = as at ha hb honce
  induction honce with
  | nil => exact absurd ha List.not_mem_nil
  | cons hfirst _ ih =>
    rcases List.mem_cons.mp ha with rfl | ha'
    · rcases List.mem_cons.mp hb with rfl | hb'
      · rfl
      · exact absurd ⟨hdevice, hinstance⟩ (hfirst b hb')
    · rcases List.mem_cons.mp hb with rfl | hb'
      · exact absurd ⟨hdevice.symm, hinstance.symm⟩ (hfirst a ha')
      · exact ih ha' hb'

theorem RemoteVolume.ShowsOnce.firstTells {v : RemoteVolume} (h : v.ShowsOnce)
    (device instanceId : String) : v.FirstTells device instanceId := by
  intro first hfirst hd a ha hdevice hinstance
  have hpasses := List.find?_some hfirst
  simp only [RemoteAttachment.passes, Option.all_some, Bool.and_eq_true, beq_iff_eq] at hpasses
  rw [h.eq ha (List.mem_of_find?_eq_some hfirst) (hdevice.trans hpasses.1)
    (hinstance.trans hpasses.2)]
  exact hd

/-- A look that shows only certain volumes. -/
def Exchange.ShowsOnly (Shows : RemoteVolume → Prop) (x : Exchange) : Prop :=
  ∀ scope ids answers, x = ⟨.describeVolumes scope ids, .ok answers⟩ →
    ∀ v, some v ∈ answers → Shows v

namespace Lifecycle

variable {γ : Type} {c : Lifecycle γ}

/-- Whether a look at a volume shows no attachment by a device to an instance but detached ones. A
volume that is missing shows none. -/
def ShowsFree (id device instanceId : String) : Except Fault (List (Option RemoteVolume)) → Prop
  | .error f => f.isNotFound = true
  | .ok answers => ∀ v, volumeAmong id answers = some v → ∀ a ∈ v.attachments,
      a.device = device → a.instanceId = instanceId → a.status = .detached

/-- At the last look at the volume the attachment was gone. -/
def Released (v : Handle) (device instanceId : String) (xs : List Exchange) : Prop :=
  ∃ outcome, Exchange.lastLook? v.scope v.localId xs = some outcome ∧
    ShowsFree v.localId device instanceId outcome

/-- Whether an attachment is the one of a volume by a device to an instance. -/
structure Names (a : RemoteAttachment) (v : Handle) (device instanceId : String) : Prop where
  volume : a.volumeId = v.localId
  device : a.device = device
  instanceId : a.instanceId = instanceId

/-! ## Looks at an attachment -/

theorem Names.of_passes {a b : RemoteAttachment} {v : Handle} {device instanceId : String}
    (ha : Names a v device instanceId) (hv : b.volumeId = v.localId)
    (hb : b.passes (some a.device) (some a.instanceId) = true) : Names b v device instanceId := by
  simp only [RemoteAttachment.passes, Option.all_some, Bool.and_eq_true, beq_iff_eq] at hb
  exact ⟨hv, hb.1 ▸ ha.device, hb.2 ▸ ha.instanceId⟩

/-- What a look makes of an attachment is the same attachment. -/
theorem Names.attachmentOn {a : RemoteAttachment} {h : Handle} {device instanceId : String}
    (ha : Names a h device instanceId) {v : RemoteVolume} (hv : v.volumeId = h.localId)
    (hown : ∀ b ∈ v.attachments, b.volumeId = v.volumeId) (absent : AttachmentStatus) :
    Names (attachmentOn absent a v) h device instanceId := by
  rw [Lifecycle.attachmentOn, RemoteVolume.attachment?]
  cases hb : v.attachments.find? (·.passes (some a.device) (some a.instanceId)) with
  | none => exact ⟨ha.volume, ha.device, ha.instanceId⟩
  | some b =>
    have hmem := List.mem_of_find?_eq_some hb
    exact ha.of_passes ((hown b hmem).trans hv) (List.find?_some hb)

/-- An attachment that looks detached is shown free. -/
theorem showsFree_of_isDetached {a : RemoteAttachment} {h : Handle} {device instanceId : String}
    (ha : Names a h device instanceId) {answers : List (Option RemoteVolume)} {v : RemoteVolume}
    (hv : volumeAmong h.localId answers = some v) (hfirst : v.FirstTells device instanceId)
    (hd : (attachmentOn .detached a v).status = .detached) :
    ShowsFree h.localId device instanceId (.ok answers) := by
  intro v' hv' b hb hdevice hinstance
  obtain rfl : v = v' := Option.some.inj (hv.symm.trans hv')
  rw [Lifecycle.attachmentOn, ha.device, ha.instanceId] at hd
  cases hshown : v.attachment? (some device) (some instanceId) with
  | none =>
    have hpasses : b.passes (some device) (some instanceId) = true := by
      simp [RemoteAttachment.passes, hdevice, hinstance]
    exact absurd hpasses (List.find?_eq_none.mp hshown b hb)
  | some first =>
    rw [hshown] at hd
    exact hfirst first hshown hd b hb hdevice hinstance

/-- A volume that turns out to be gone shows nothing. -/
theorem showsFree_of_missing {α : Type} {scope id device instanceId : String}
    {outcome : Except Fault (List (Option RemoteVolume))} {why : Fault}
    {f : RemoteVolume → α} (hr : .error why = (orMissing scope id (foundVolume id outcome)).map f)
    (hwhy : why.isNotFound = true) : ShowsFree id device instanceId outcome := by
  cases outcome with
  | error g =>
    by_cases hg : g.isNotFound
    · exact hg
    · rw [foundVolume, orNone, if_neg hg] at hr
      obtain rfl : why = g := Except.error.inj hr
      exact absurd hwhy hg
  | ok answers =>
    intro v hv
    rw [foundVolume, orNone] at hr
    simp only [Except.map, Option.bind_some, hv] at hr
    cases hr

/-- A volume that a look has found is among those of its answer. -/
theorem among_of_foundVolume {id : String} {outcome : Except Fault (List (Option RemoteVolume))}
    {v : RemoteVolume} (h : foundVolume id outcome = .ok (some v)) :
    ∃ answers, outcome = .ok answers ∧ volumeAmong id answers = some v := among_of_found h

/-- What is made of a volume was made of one that the look has found. -/
theorem found_of_orMissing {α : Type} {scope id : String}
    {found : Except Fault (Option RemoteVolume)} {a : α} {f : RemoteVolume → α}
    (hr : .ok a = (orMissing scope id found).map f) : ∃ v, found = .ok (some v) ∧ a = f v := by
  cases found with
  | error g => cases hr
  | ok o =>
    cases o with
    | none => cases hr
    | some v => exact ⟨v, rfl, Except.ok.inj hr⟩

/-- What the wait of a detach has seen when it ends well: the answer itself said detached, or else
the last look shows the attachment no more. -/
theorem released_of_course {w : Wait RemoteAttachment}
    (hready : w.ready = RemoteAttachment.isDetached) {v : Handle} {device instanceId : String}
    {left used total : Nat} {a : RemoteAttachment} {xs : List Exchange}
    {ending : Ending RemoteAttachment} {last : Option RemoteAttachment}
    (h : w.Course (AttachmentLook v.scope .detached) left used a xs ending total)
    (hends : w.answer total ending = .ok last) (ha : Names a v device instanceId)
    {Shows : RemoteVolume → Prop} (hxs : ∀ x ∈ xs, x.ShowsOnly Shows)
    (hown : ∀ u, Shows u → ∀ b ∈ u.attachments, b.volumeId = u.volumeId)
    (hfirst : ∀ u, Shows u → u.volumeId = v.localId → u.FirstTells device instanceId) :
    (xs = [] ∧ a.status = .detached) ∨ Released v device instanceId xs := by
  induction h with
  | failed h => cases hends
  | ready _ h =>
    rw [hready] at h
    exact Or.inl ⟨rfl, of_decide_eq_true h⟩
  | exhausted _ => cases hends
  | cancelled _ => cases hends
  | broken _ _ _ => cases hends
  | @gone left used a xs why _ hlook hgone =>
    obtain ⟨outcome, rfl, hr⟩ := hlook
    rw [ha.volume] at hr ⊢
    exact Or.inr ⟨outcome, Exchange.lastLook?_singleton _ _ _, showsFree_of_missing hr hgone.1⟩
  | @fetched left used total a state xs ys ending _ hlook hrest ih =>
    obtain ⟨outcome, rfl, hr⟩ := hlook
    obtain ⟨remote, hfound, rfl⟩ := found_of_orMissing hr
    obtain ⟨answers, rfl, hremote⟩ := among_of_foundVolume hfound
    have hshown : Shows remote :=
      hxs _ (List.mem_append_left _ List.mem_cons_self) _ _ _ rfl _ (volumeAmong_some hremote).1
    have hid : remote.volumeId = v.localId := (volumeAmong_some hremote).2.trans ha.volume
    have hnames := ha.attachmentOn hid (hown remote hshown) .detached
    right
    rcases ih hends hnames fun x hx => hxs x (List.mem_append_right _ hx) with ⟨rfl, hd⟩ | hlater
    · rw [ha.volume] at hremote ⊢
      refine ⟨.ok answers, Exchange.lastLook?_singleton _ _ _, ?_⟩
      exact showsFree_of_isDetached ha hremote (hfirst remote hshown hid) hd
    · obtain ⟨outcome, hlast, hfree⟩ := hlater
      exact ⟨outcome, Exchange.lastLook?_append _ hlast, hfree⟩

/-! ## Detaches that succeed -/

/-- Whether a detach has asked to detach an attachment, and was answered so. -/
def Detaches (v : Handle) (device instanceId : String) (a : RemoteAttachment)
    (xs : List Exchange) : Prop :=
  ∃ force, ⟨.detachVolume v.scope v.localId force (some device) (some instanceId), .ok a⟩ ∈ xs

/-- The looks of a wait for an attachment. -/
theorem isLook_of_settles {w : Wait RemoteAttachment} {scope : String} {absent : AttachmentStatus}
    {first : RemoteAttachment} {xs : List Exchange} {r : Except Fault (Option RemoteAttachment)}
    (h : w.Settles (AttachmentLook scope absent) first xs r) :
    ∀ x ∈ xs, ∃ ids, x.request = .describeVolumes scope ids := by
  refine h.forall_mem fun a ys s hlook x hx => ?_
  obtain ⟨outcome, rfl, -⟩ := hlook
  obtain rfl := List.mem_singleton.mp hx
  exact ⟨_, rfl⟩

theorem decode_of_sameScope {volume node : String} {v n : Handle}
    (h : Handle.sameScope volume node = .ok (v, n)) : Handle.decode volume = .ok v := by
  rw [Handle.sameScope] at h
  cases hv : Handle.decode volume with
  | error why =>
    rw [hv] at h
    cases h
  | ok v' =>
    cases hn : Handle.decode node with
    | error why =>
      rw [hv, hn] at h
      cases h
    | ok n' =>
      rw [hv, hn] at h
      simp only [bind, Except.bind] at h
      split at h
      · cases h
      · cases h
        rfl

theorem decode_of_detachScope {volume : String} {nodeId instanceId : Option String} {v : Handle}
    (h : detachScope volume nodeId = .ok (v, instanceId)) : Handle.decode volume = .ok v := by
  cases nodeId with
  | none =>
    rw [detachScope] at h
    cases hv : Handle.decode volume with
    | error why =>
      rw [hv] at h
      cases h
    | ok v' =>
      rw [hv] at h
      cases h
      rfl
  | some node =>
    rw [detachScope] at h
    cases hs : Handle.sameScope volume node with
    | error why =>
      rw [hs] at h
      cases h
    | ok p =>
      rw [hs] at h
      cases h
      exact decode_of_sameScope hs

theorem parts_of_detachArguments {volume : String} {options : Options} {target : DetachTarget}
    {v : Handle} {instanceId : Option String}
    (h : detachArguments volume options = .ok (target, v, instanceId)) :
    detachTarget options = .ok target ∧
      detachScope volume target.nodeId = .ok (v, instanceId) := by
  cases ht : detachTarget options with
  | error why =>
    rw [detachArguments_of_target ht] at h
    cases h
  | ok t =>
    rw [detachArguments_of_scope ht] at h
    cases hs : detachScope volume t.nodeId with
    | error why =>
      rw [hs] at h
      cases h
    | ok p =>
      rw [hs] at h
      cases h
      exact ⟨rfl, hs⟩

/-- The volume that a detach is about is the one that its handle says. -/
theorem decode_of_detachArguments {volume : String} {options : Options} {target : DetachTarget}
    {v : Handle} {instanceId : Option String}
    (h : detachArguments volume options = .ok (target, v, instanceId)) :
    Handle.decode volume = .ok v := decode_of_detachScope (parts_of_detachArguments h).2

/-- How a detach goes that succeeds: a look, the request, and a wait from the answer on. -/
theorem exchanges_of_detached {volume : String} {options : Options} {xs : List Exchange}
    (h : Admitted (detachArguments volume options) (fun d =>
      OpenedByVolume d.2.1 false (Detachment c d.2.1 d.1 d.2.2)) xs (.ok true)) {v : Handle}
    (hv : Handle.decode volume = .ok v) :
    ∃ target instanceId answers remote found a waited last,
      detachArguments volume options = .ok (target, v, instanceId) ∧
      xs = ⟨.describeVolumes v.scope [v.localId], .ok answers⟩ ::
        ⟨detachRequest v target found, .ok a⟩ :: waited ∧
      volumeAmong v.localId answers = some remote ∧
      remote.attachment? target.device instanceId = some found ∧
      c.detachWait.Settles (AttachmentLook v.scope .detached) a waited (.ok last) := by
  generalize hr : (Except.ok true : Except Fault Bool) = r at h
  cases h with
  | refused _ => cases hr
  | @admitted d _ _ hargs rest =>
    obtain ⟨target, v', instanceId⟩ := d
    obtain rfl : v = v' := Except.ok.inj (hv.symm.trans (decode_of_detachArguments hargs))
    obtain ⟨look, hopened⟩ := rest
    cases hopened with
    | lost _ => cases hr
    | missing _ => cases hr
    | found hremote rest =>
      obtain ⟨answers, rfl, hamong⟩ := among_of_foundVolume hremote
      cases rest with
      | unmatched _ => cases hr
      | matched hfound rest =>
        cases rest with
        | refused f =>
          rw [unlessMissing] at hr
          split at hr <;> cases hr
        | unsettled _ => cases hr
        | settled hwait =>
          exact ⟨target, instanceId, answers, _, _, _, _, _, hargs, rfl, hamong, hfound, hwait⟩

/-- The attachment that a successful detach asked for is gone at its last look, if the answer names
it and the first attachment that a look shows tells for all. -/
theorem released_of_names {volume : String} {options : Options} {xs : List Exchange}
    (h : Admitted (detachArguments volume options) (fun d =>
      OpenedByVolume d.2.1 false (Detachment c d.2.1 d.1 d.2.2)) xs (.ok true)) {v : Handle}
    (hv : Handle.decode volume = .ok v) {device instanceId : String} {a : RemoteAttachment}
    (ha : Detaches v device instanceId a xs) (hnames : Names a v device instanceId)
    {Shows : RemoteVolume → Prop} (hxs : ∀ x ∈ xs, x.ShowsOnly Shows)
    (hown : ∀ u, Shows u → ∀ b ∈ u.attachments, b.volumeId = u.volumeId)
    (hfirst : ∀ u, Shows u → u.volumeId = v.localId → u.FirstTells device instanceId) :
    a.status = .detached ∨ Released v device instanceId xs := by
  obtain ⟨_, _, _, _, _, b, waited, last, -, rfl, -, -, hwait⟩ := exchanges_of_detached h hv
  obtain rfl : a = b := by
    obtain ⟨force, hmem⟩ := ha
    rcases List.mem_cons.mp hmem with heq | hmem
    · cases heq
    · rcases List.mem_cons.mp hmem with heq | hmem
      · cases heq
        rfl
      · obtain ⟨ids, hids⟩ := isLook_of_settles hwait _ hmem
        cases hids
  obtain ⟨ending, total, hcourse, hlast⟩ := hwait
  have hwaited : ∀ x ∈ waited, x.ShowsOnly Shows := fun x hx =>
    hxs x (List.mem_cons_of_mem _ (List.mem_cons_of_mem _ hx))
  rcases released_of_course rfl hcourse hlast.symm hnames hwaited hown hfirst with
    ⟨-, hd⟩ | ⟨outcome, hlook, hfree⟩
  · exact Or.inl hd
  · exact Or.inr ⟨outcome, Exchange.lastLook?_append [_, _] hlook, hfree⟩

/-! ## Volumes that stay attached -/

/-- A gateway that shows the same volumes whatever is asked, and answers a request to detach with an
attachment of any kind. -/
def deafReply (shown : String → RemoteVolume) (a : RemoteAttachment) :
    (r : Request) → Except Fault r.Answer
  | .describeVolumes _ ids => .ok [some (shown (ids.headD ""))]
  | .detachVolume _ _ _ _ _ => .ok a
  | _ => .error .aborted

/-- The flows over that gateway. -/
def deaf (shown : String → RemoteVolume) (a : RemoteAttachment) : Lifecycle Unit where
  gateway := .prompt (deafReply shown a)

/-- An answer of a prompt gateway is the one that it has at hand. -/
theorem outcome_of_answers {reply : (r : Request) → Except Fault r.Answer} {c : Lifecycle Unit}
    (hc : c.gateway = .prompt reply) {x : Exchange} (hx : c.Answers x) :
    x.outcome = reply x.request := by
  obtain ⟨now, remote, trace, hruns⟩ := hx
  rw [hc] at hruns
  exact hruns.of_done.2

theorem volumeAmong_single {id : String} {v : RemoteVolume} (h : v.volumeId = id) :
    volumeAmong id [some v] = some v := by
  simp [volumeAmong, h]

section Deaf

variable {shown : String → RemoteVolume} {a : RemoteAttachment} {volume : String}
  {options : Options} {v : Handle} {target : DetachTarget} {instanceId : Option String}
  {found : RemoteAttachment} (hargs : detachArguments volume options = .ok (target, v, instanceId))
  (hid : (shown v.localId).volumeId = v.localId)
  (hfound : (shown v.localId).attachment? target.device instanceId = some found)

include hargs hid hfound

/-- A detach from such volumes succeeds if the answer looks detached. -/
theorem yields_deaf {node : String} (hn : Handle.encode v.scope found.instanceId = .ok node)
    (hstatus : a.status ≠ .detached) (ha : (shown a.volumeId).volumeId = a.volumeId)
    (hd : (attachmentOn .detached a (shown a.volumeId)).status = .detached) :
    Yields ((deaf shown a).detachVolume volume options) (.ok true) := by
  have hc : (deaf shown a).gateway = .prompt (deafReply shown a) := rfl
  have hlook : ∀ {id}, (shown id).volumeId = id →
      Yields ((deaf shown a).volume? v.scope id) (.ok (some (shown id))) := by
    intro id h
    rw [← volumeAmong_single h]
    exact .volume? hc v.scope id rfl
  have hrefresh : Yields ((deaf shown a).refreshAttachment v.scope .detached a)
      (.ok (attachmentOn .detached a (shown a.volumeId))) := .bind (hlook ha) (.pure _)
  have hundecided : (deaf shown a).detachWait.Undecided a := ⟨rfl, decide_eq_false hstatus⟩
  obtain ⟨htarget, hscope⟩ := parts_of_detachArguments hargs
  refine .bind (.check htarget) (.bind (.check hscope) (.tracked (.bind (hlook hid) ?_)))
  dsimp only
  rw [hfound]
  refine .bind (.orGone (.ask hc (detachRequest v target found))) ?_
  refine .bind (.waitFor (Nat.succ_pos 599) hundecided hrefresh rfl (decide_eq_true hd)) ?_
  exact .bind (.note _) (.bind (.check hn) (.bind (.note _) (.pure _)))

/-- A detach from such volumes that succeeds has asked for the attachment that its filters find. -/
theorem detaches_of_deaf {xs : List Exchange}
    (h : Admitted (detachArguments volume options) (fun d => OpenedByVolume d.2.1 false
      (Detachment (deaf shown a) d.2.1 d.1 d.2.2)) xs (.ok true))
    (hxs : ∀ x ∈ xs, (deaf shown a).Answers x) :
    Detaches v found.device found.instanceId a xs := by
  obtain ⟨target', instanceId', answers, remote, found', b, waited, last, hargs', rfl, hremote,
    hfound', -⟩ := exchanges_of_detached h (decode_of_detachArguments hargs)
  have hlook := outcome_of_answers rfl (hxs _ List.mem_cons_self)
  have hanswer := outcome_of_answers rfl (hxs _ (List.mem_cons_of_mem _ List.mem_cons_self))
  obtain rfl : b = a := Except.ok.inj hanswer
  obtain rfl : answers = [some (shown v.localId)] := Except.ok.inj hlook
  rw [volumeAmong_single hid] at hremote
  obtain rfl := Option.some.inj hremote
  cases hargs.symm.trans hargs'
  obtain rfl : found = found' := Option.some.inj (hfound.symm.trans hfound')
  exact ⟨target.force, List.mem_cons_of_mem _ List.mem_cons_self⟩

omit hargs hfound in
/-- An attachment that such a volume shows as held is not gone at any look. -/
theorem not_released_of_deaf {b : RemoteAttachment} (hb : b ∈ (shown v.localId).attachments)
    (hheld : b.status ≠ .detached) {xs : List Exchange}
    (hxs : ∀ x ∈ xs, (deaf shown a).Answers x) : ¬ Released v b.device b.instanceId xs := by
  rintro ⟨outcome, hlast, hfree⟩
  obtain ⟨x, hx, hlook⟩ := List.mem_filterMap.mp (List.mem_of_getLast? hlast)
  obtain rfl := Exchange.of_look? hlook
  obtain rfl : outcome = .ok [some (shown v.localId)] := outcome_of_answers rfl (hxs _ hx)
  exact hheld (hfree _ (volumeAmong_single hid) b hb rfl rfl)

end Deaf

/-! ## The law of a detach -/

/-- Every detach of a volume that succeeds after this answer to its request has seen that the
attachment is gone, where looks show certain volumes only. -/
def AnswerSuffices (Shows : RemoteVolume → Prop) (volume : String) (v : Handle)
    (device instanceId : String) (a : RemoteAttachment) : Prop :=
  ∀ (γ : Type) (c : Lifecycle γ), (∀ x, c.Answers x → x.ShowsOnly Shows) → ∀ options w,
    ∃ own, w.Wrote own ((c.detachVolume volume options).run w).2 ∧
      (((c.detachVolume volume options).run w).1 = .ok true →
        Detaches v device instanceId a (Event.exchanges own) →
        a.status = .detached ∨ Released v device instanceId (Event.exchanges own))

/-- An answer does not suffice if volumes that may be shown let it look detached, but hold the
attachment still. -/
theorem not_suffices_of_deaf {Shows : RemoteVolume → Prop} {shown : String → RemoteVolume}
    (hshows : ∀ id, Shows (shown id)) {volume : String} {options : Options} {v : Handle}
    {target : DetachTarget} {instanceId : Option String} {found a b : RemoteAttachment}
    (hargs : detachArguments volume options = .ok (target, v, instanceId))
    (hid : (shown v.localId).volumeId = v.localId)
    (hfound : (shown v.localId).attachment? target.device instanceId = some found)
    {node : String} (hn : Handle.encode v.scope found.instanceId = .ok node)
    (hstatus : a.status ≠ .detached) (ha : (shown a.volumeId).volumeId = a.volumeId)
    (hd : (attachmentOn .detached a (shown a.volumeId)).status = .detached)
    (hb : b ∈ (shown v.localId).attachments) (hdevice : b.device = found.device)
    (hinstance : b.instanceId = found.instanceId) (hheld : b.status ≠ .detached) :
    ¬ AnswerSuffices Shows volume v found.device found.instanceId a := by
  intro hsuffices
  have honly : ∀ x, (deaf shown a).Answers x → x.ShowsOnly Shows := by
    rintro x hx scope ids answers rfl u hu
    obtain rfl : answers = [some (shown (ids.headD ""))] :=
      Except.ok.inj (outcome_of_answers rfl hx)
    obtain rfl := Option.some.inj (List.mem_singleton.mp hu)
    exact hshows _
  obtain ⟨own, hwrote, hreleased⟩ := hsuffices Unit _ honly options { remote := () }
  obtain ⟨own', hgrows, xs, hxs, hanswers, hstory⟩ :=
    tells_detachVolume (deaf shown a) volume options { remote := () }
  have hown : own = own' := by
    have hjournal := (hwrote.journal_eq rfl).symm.trans (hgrows.wrote.journal_eq rfl)
    exact List.append_cancel_left hjournal
  have hexchanges : Event.exchanges own = xs := by
    rw [hown, ← Event.exchanges_filter, hxs, Event.exchanges_flatMap]
  have htrue := (yields_deaf hargs hid hfound hn hstatus ha hd { remote := () } ⟨rfl, rfl⟩).1
  rw [htrue] at hstory
  rw [hexchanges] at hreleased
  rcases hreleased htrue (detaches_of_deaf hargs hid hfound hstory hanswers) with h | h
  · exact hstatus h
  · rw [← hdevice, ← hinstance] at h
    exact not_released_of_deaf hid hb hheld hanswers h

/-- The volume with a local id; the one that is to be detached shows the attachment. -/
def shownVolume (v : Handle) (device instanceId id : String) : RemoteVolume where
  scope := v.scope
  volumeId := id
  sizeGb := 1.0
  zone := v.scope ++ "a"
  status := .inUse
  attachments := if id = v.localId then [⟨v.localId, instanceId, device, .attached⟩] else []

theorem shownVolume_showsOnce (v : Handle) (device instanceId id : String) :
    (shownVolume v device instanceId id).ShowsOnce := by
  by_cases hid : id = v.localId
  · constructor <;> simp [shownVolume, hid]
  · constructor <;> simp [shownVolume, hid]

/-- The answer has to name the attachment: the volume that it names does not show the attachment
that it names. -/
theorem names_of_suffices {Shows : RemoteVolume → Prop} (hall : ∀ u, u.ShowsOnce → Shows u)
    {volume : String} {v : Handle} (hv : Handle.decode volume = .ok v)
    {device instanceId node : String} (hn : Handle.encode v.scope instanceId = .ok node)
    {a : RemoteAttachment} (h : AnswerSuffices Shows volume v device instanceId a)
    (hstatus : a.status ≠ .detached) : Names a v device instanceId := by
  refine Classical.byContradiction fun hnames => ?_
  have hscope : detachScope volume none = .ok (v, none) := by
    rw [detachScope, hv]
    rfl
  have hargs : detachArguments volume (.other .null) = .ok (⟨none, none, false⟩, v, none) :=
    detachArguments_eq_ok rfl hscope
  have hfound : (shownVolume v device instanceId v.localId).attachment? none none =
      some ⟨v.localId, instanceId, device, .attached⟩ := by
    simp [RemoteVolume.attachment?, shownVolume, RemoteAttachment.passes]
  have habsent : (shownVolume v device instanceId a.volumeId).attachment? (some a.device)
      (some a.instanceId) = none := by
    by_cases hid : a.volumeId = v.localId
    · refine List.find?_eq_none.mpr fun b hb hpasses => hnames ?_
      simp only [shownVolume, if_pos hid, List.mem_singleton] at hb
      subst hb
      simp only [RemoteAttachment.passes, Option.all_some, Bool.and_eq_true, beq_iff_eq] at hpasses
      exact ⟨hid, hpasses.1, hpasses.2⟩
    · simp [RemoteVolume.attachment?, shownVolume, hid]
  have hd : (attachmentOn .detached a (shownVolume v device instanceId a.volumeId)).status =
      .detached := by
    rw [attachmentOn, habsent]
    rfl
  have hheld : AttachmentStatus.attached ≠ .detached := by decide
  exact not_suffices_of_deaf (fun id => hall _ (shownVolume_showsOnce v device instanceId id))
    hargs rfl hfound hn hstatus rfl hd (List.mem_of_find?_eq_some hfound) rfl rfl hheld h

/-- The first attachment that a volume shows has to tell for all: a wait looks at no other. -/
theorem firstTells_of_suffices {Shows : RemoteVolume → Prop} {volume : String} {v : Handle}
    (hv : Handle.decode volume = .ok v) {device instanceId node : String}
    (hn : Handle.encode v.scope instanceId = .ok node) {a : RemoteAttachment}
    (h : AnswerSuffices Shows volume v device instanceId a) (hstatus : a.status ≠ .detached)
    (hnames : Names a v device instanceId) {u : RemoteVolume} (hu : Shows u)
    (hid : u.volumeId = v.localId) : u.FirstTells device instanceId := by
  intro first hfirst hdetached b hb hdevice hinstance
  refine Classical.byContradiction fun hheld => ?_
  have hscope : detachScope volume (some node) = .ok (v, some instanceId) := by
    have hnode := Handle.decode_encode hn
    simp only [detachScope, Handle.sameScope, bind, Except.bind, hv, hnode, ne_eq,
      not_true_eq_false, if_false]
    rfl
  have hargs : detachArguments volume (.detach ⟨some device, some node⟩) =
      .ok (⟨some device, some node, false⟩, v, some instanceId) :=
    detachArguments_eq_ok rfl hscope
  have hpasses := List.find?_some hfirst
  simp only [RemoteAttachment.passes, Option.all_some, Bool.and_eq_true, beq_iff_eq] at hpasses
  obtain ⟨rfl, rfl⟩ := hpasses
  have hd : (attachmentOn .detached a u).status = .detached := by
    rw [attachmentOn, hnames.device, hnames.instanceId, hfirst]
    exact hdetached
  exact not_suffices_of_deaf (fun _ => hu) hargs hid hfirst hn hstatus
    (hid.trans hnames.volume.symm) hd hb hdevice hinstance hheld h

/-- **A detach that succeeds has seen that its attachment is gone, exactly if the answer to its
request says so, or names that attachment and volumes tell its state by the first of its
records.** Volumes are shown with attachments of their own, and any that shows each of its
attachments once may be shown. -/
theorem detach_sound_iff_answer_names {Shows : RemoteVolume → Prop}
    (hown : ∀ u, Shows u → ∀ b ∈ u.attachments, b.volumeId = u.volumeId)
    (hall : ∀ u, u.ShowsOnce → Shows u) {volume : String} {v : Handle}
    (hv : Handle.decode volume = .ok v) {device instanceId node : String}
    (hn : Handle.encode v.scope instanceId = .ok node) (a : RemoteAttachment) :
    AnswerSuffices Shows volume v device instanceId a ↔
      a.status = .detached ∨ (Names a v device instanceId ∧
        ∀ u, Shows u → u.volumeId = v.localId → u.FirstTells device instanceId) := by
  constructor
  · intro h
    by_cases hstatus : a.status = .detached
    · exact Or.inl hstatus
    · have hnames := names_of_suffices hall hv hn h hstatus
      exact Or.inr ⟨hnames, fun u hu hid => firstTells_of_suffices hv hn h hstatus hnames hu hid⟩
  · rintro hcase γ c honly options w
    obtain ⟨own, hgrows, xs, hxs, hanswers, hstory⟩ := tells_detachVolume c volume options w
    have hexchanges : Event.exchanges own = xs := by
      rw [← Event.exchanges_filter, hxs, Event.exchanges_flatMap]
    refine ⟨own, hgrows.wrote, fun htrue hdetaches => ?_⟩
    rw [hexchanges] at hdetaches ⊢
    rw [htrue] at hstory
    rcases hcase with hstatus | ⟨hnames, hfirst⟩
    · exact Or.inl hstatus
    · exact released_of_names hstory hv hdetaches hnames (fun x hx => honly x (hanswers x hx)) hown
        hfirst

/-- Where each attachment is shown once, an answer with the device suffices, and the same answer
without it does not. -/
theorem answer_suffices_with_device :
    AnswerSuffices RemoteVolume.ShowsOnce "us-east-1/vol-1" ⟨"us-east-1", "vol-1"⟩ "/dev/sdh"
      "i-1" ⟨"vol-1", "i-1", "/dev/sdh", .detaching⟩ ∧
    ¬ AnswerSuffices RemoteVolume.ShowsOnce "us-east-1/vol-1" ⟨"us-east-1", "vol-1"⟩ "/dev/sdh"
      "i-1" ⟨"vol-1", "i-1", "", .detaching⟩ := by
  have hv : Handle.decode "us-east-1/vol-1" = .ok ⟨"us-east-1", "vol-1"⟩ := rfl
  have hn : Handle.encode "us-east-1" "i-1" = .ok "us-east-1/i-1" := rfl
  have hown : ∀ u : RemoteVolume, u.ShowsOnce → ∀ b ∈ u.attachments, b.volumeId = u.volumeId :=
    fun _ hu => hu.own
  constructor
  · refine (detach_sound_iff_answer_names hown (fun _ => id) hv hn _).mpr (Or.inr ⟨?_, ?_⟩)
    · exact ⟨rfl, rfl, rfl⟩
    · exact fun u hu _ => hu.firstTells _ _
  · intro h
    rcases (detach_sound_iff_answer_names hown (fun _ => id) hv hn _).mp h with hstatus | hnames
    · cases hstatus
    · exact absurd hnames.1.device (by decide)

/-! ## An answer without a device -/

/-- A detach that succeeds has seen that the attachment which it asked for is gone. -/
def DetachSound (c : Lifecycle γ) (volume : String) (options : Options) (w : World Event γ) :
    Prop :=
  ∃ own, w.Wrote own ((c.detachVolume volume options).run w).2 ∧
    (((c.detachVolume volume options).run w).1 = .ok true →
      ∃ v device instanceId a, Detaches v device instanceId a (Event.exchanges own) ∧
        (a.status = .detached ∨ Released v device instanceId (Event.exchanges own)))

/-- A client whose volume stays attached, and which answers a request to detach without naming the
device. -/
def stuckClient : Client Unit where
  send _ call _ _ :=
    if call = "detach_volume" then
      (.ok (.record [("InstanceId", .text "i-1"), ("State", .text "detaching"),
        ("VolumeId", .text "vol-1")]), ())
    else
      (.pages [.ok (.record [("Volumes", .list [.record [("Attachments", .list [.record
        [("Device", .text "/dev/sdh"), ("InstanceId", .text "i-1"), ("State", .text "attached"),
          ("VolumeId", .text "vol-1")]]), ("AvailabilityZone", .text "us-east-1a"),
        ("Size", .int 8), ("State", .text "in-use"), ("VolumeId", .text "vol-1")]])])], ())

/-- The flows over that client. -/
def stuck : Lifecycle (Wire Unit) where
  gateway := Ec2.gateway { maxRetries := 0 } stuckClient
  budgets := { maxAttempts := 1, delay := 0.0 }

/-- What has been asked to detach, and the answer. -/
def detached? : Exchange → Option (Handle × String × String × RemoteAttachment)
  | ⟨.detachVolume scope id _ (some device) (some instanceId), .ok a⟩ =>
    some (⟨scope, id⟩, device, instanceId, a)
  | _ => none

/-- The attachments that the last look at the volume shows. -/
def lastShown (scope id : String) (xs : List Exchange) : Option (List RemoteAttachment) :=
  match Exchange.lastLook? scope id xs with
  | some (.ok answers) => (volumeAmong id answers).map (·.attachments)
  | _ => none

/-- An attachment that the last look still shows as held is not gone. -/
theorem not_released_of_lastShown {v : Handle} {xs : List Exchange} {as : List RemoteAttachment}
    (h : lastShown v.scope v.localId xs = some as) {a : RemoteAttachment} (ha : a ∈ as)
    (hstatus : a.status ≠ .detached) : ¬ Released v a.device a.instanceId xs := by
  rintro ⟨outcome, hlast, hfree⟩
  rw [lastShown, hlast] at h
  cases outcome with
  | error f => cases h
  | ok answers =>
    obtain ⟨u, hu, rfl⟩ := Option.map_eq_some_iff.mp h
    exact hstatus (hfree u hu a ha rfl rfl)

/-- The volume counts as detached though the last look shows it attached. -/
theorem stuck_detach_unsound :
    ¬ DetachSound stuck "us-east-1/vol-1" (.other .null) { remote := { client := () } } := by
  have htrue : ((stuck.detachVolume "us-east-1/vol-1" (.other .null)).run
      { remote := { client := () } }).1.toOption = some true := by decide +kernel
  have hasked : (Event.exchanges ((stuck.detachVolume "us-east-1/vol-1" (.other .null)).run
      { remote := { client := () } }).2.journal).filterMap detached? =
      [(⟨"us-east-1", "vol-1"⟩, "/dev/sdh", "i-1", ⟨"vol-1", "i-1", "", .detaching⟩)] := by
    decide +kernel
  have hshown : lastShown "us-east-1" "vol-1" (Event.exchanges ((stuck.detachVolume
      "us-east-1/vol-1" (.other .null)).run { remote := { client := () } }).2.journal) =
      some [⟨"vol-1", "i-1", "/dev/sdh", .attached⟩] := by decide +kernel
  rintro ⟨own, hwrote, hsound⟩
  have hjournal := hwrote.journal_eq rfl
  rw [List.nil_append] at hjournal
  rw [hjournal] at hasked hshown
  generalize ((stuck.detachVolume "us-east-1/vol-1" (.other .null)).run
    { remote := { client := () } }).1 = r at htrue hsound
  cases r with
  | error f => cases htrue
  | ok b =>
    obtain rfl := Option.some.inj htrue
    obtain ⟨v, device, instanceId, a, ⟨force, hmem⟩, hgone⟩ := hsound rfl
    have hdetached : (v, device, instanceId, a) ∈ (Event.exchanges own).filterMap detached? :=
      List.mem_filterMap.mpr ⟨_, hmem, rfl⟩
    rw [hasked, List.mem_singleton] at hdetached
    cases hdetached
    rcases hgone with hstatus | hreleased
    · cases hstatus
    · have hheld : AttachmentStatus.attached ≠ .detached := by decide
      exact not_released_of_lastShown (v := ⟨"us-east-1", "vol-1"⟩) hshown
        (a := ⟨"vol-1", "i-1", "/dev/sdh", .attached⟩) List.mem_cons_self hheld hreleased

end Lifecycle

end BlockStorage
