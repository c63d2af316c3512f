import BlockStorage.Gateway.Ec2

/-!
# Records that can be read

A record of the provider is read without being checked first, so whether it can be read
depends on what it carries. It can be where its ids are there, its state is a known word,
its size is a number that a double holds, and whatever else is there is of its kind: a
text, a time, a list of records.

* `Gives`: a computation that gives a value, with what is known of the value.
* `Ec2.IsAttachment`, `Ec2.IsVolume`, `Ec2.IsSnapshot`: the records that can be read.
* `Ec2.gives_attachment`, `Ec2.gives_volume`, `Ec2.gives_snapshot`: that they can.
-/

namespace BlockStorage

variable {α β : Type}

/-! ## Computations that give a value -/

/-- A computation does not fail, and `P` holds of its value. -/
def Gives (x : Except Fault α) (P : α → Prop) : Prop := ∃ a, x = .ok a ∧ P a

namespace Gives

theorem ok {P : α → Prop} {a : α} (h : P a) : Gives (.ok a) P := ⟨a, rfl, h⟩

theorem bind {x : Except Fault α} {f : α → Except Fault β} {P : β → Prop}
    (h : Gives x fun a => Gives (f a) P) : Gives (x >>= f) P := by
  obtain ⟨a, rfl, hf⟩ := h
  exact hf

theorem mono {x : Except Fault α} {P Q : α → Prop} (h : Gives x P) (hm : ∀ a, P a → Q a) :
    Gives x Q := by
  obtain ⟨a, hx, hP⟩ := h
  exact ⟨a, hx, hm a hP⟩

theorem mapM {f : α → Except Fault β} {P : β → Prop} {as : List α} (h : ∀ a ∈ as, Gives (f a) P) :
    Gives (as.mapM f) fun bs => ∀ b ∈ bs, P b := by
  induction as with
  | nil => exact .ok (by simp)
  | cons a as ih =>
    rw [List.mapM_cons]
    refine .bind ((h a List.mem_cons_self).mono fun b hb => ?_)
    refine .bind ((ih fun a' ha' => h a' (List.mem_cons_of_mem a ha')).mono fun bs hbs => ?_)
    exact .ok (List.forall_mem_cons.mpr ⟨hb, hbs⟩)

theorem foldlM {f : β → α → Except Fault β} {P : β → Prop} {as : List α} {b : β} (hb : P b)
    (h : ∀ a ∈ as, ∀ b, P b → Gives (f b a) P) : Gives (as.foldlM f b) P := by
  induction as generalizing b with
  | nil => exact .ok hb
  | cons a as ih =>
    rw [List.foldlM_cons]
    refine .bind ((h a List.mem_cons_self b hb).mono fun b' hb' => ?_)
    exact ih hb' fun a' ha' => h a' (List.mem_cons_of_mem a ha')

end Gives

/-- A computation fails with the fault, where there is one, and gives a value otherwise. -/
def GivesUnless (fault? : Option Fault) (x : Except Fault α) (P : α → Prop) : Prop :=
  match fault? with
  | some f => x = .error f
  | none => Gives x P

/-- What comes before a computation may give its value. -/
theorem GivesUnless.after {fault? : Option Fault} {x : Except Fault α} {f : α → Except Fault β}
    {P : β → Prop} (h : Gives x fun a => GivesUnless fault? (f a) P) :
    GivesUnless fault? (x >>= f) P := by
  obtain ⟨a, rfl, hf⟩ := h
  exact hf

theorem GivesUnless.bind {fault? : Option Fault} {x : Except Fault α} {f : α → Except Fault β}
    {P : α → Prop} {Q : β → Prop} (h : GivesUnless fault? x P) (hf : ∀ a, P a → Gives (f a) Q) :
    GivesUnless fault? (x >>= f) Q := by
  cases fault? with
  | none => exact Gives.bind (Gives.mono h hf)
  | some why =>
    rw [show x = .error why from h]
    rfl

/-! ## Kinds of data -/

namespace Datum

inductive IsText : Datum → Prop
  | text (s : String) : IsText (.text s)

/-- A text, or null for none. -/
inductive IsTextOrNull : Datum → Prop
  | ofText? (s : Option String) : IsTextOrNull (.ofText? s)

/-- A member of a vocabulary. -/
inductive IsWord (α : Type) [Vocabulary α] : Datum → Prop
  | text (a : α) : IsWord α (.text (Vocabulary.value a))

/-- A number that a double holds. -/
inductive IsSize : Datum → Prop
  | whole {n : Int} (h : (Decimal.Real.ofInt? n).isSome = true) : IsSize (.int n)
  | real (x : Float) : IsSize (.real x)

/-- A timestamp, or null for none. -/
inductive IsTime : Datum → Prop
  | null : IsTime .null
  | text {s : String} (h : (Timestamp.ofIso? s).isSome = true) : IsTime (.text s)

/-- A record whose fields are as they should be. -/
inductive IsRecord (P : Fields → Prop) : Datum → Prop
  | record {fs : Fields} (h : P fs) : IsRecord P (.record fs)

/-- A list of such records. -/
inductive IsRecords (P : Fields → Prop) : Datum → Prop
  | list {ds : List Datum} (h : ∀ d ∈ ds, IsRecord P d) : IsRecords P (.list ds)

/-! ## Getting at a field -/

/-- A field that must be there. -/
def Has (fs : Fields) (name : String) (P : Datum → Prop) : Prop :=
  ∃ d, fs.get? name = some d ∧ P d

/-- A field that may be missing. -/
def MayHave (fs : Fields) (name : String) (P : Datum → Prop) : Prop :=
  ∀ d, fs.get? name = some d → P d

theorem Has.gives {fs : Fields} {name : String} {P : Datum → Prop} (h : Has fs name P) :
    Gives (key (.record fs) name) P := by
  obtain ⟨d, hd, hP⟩ := h
  exact ⟨d, by rw [key, show fs.lookup name = some d from hd], hP⟩

/-- A field that is missing counts as its default, which is of the same kind. -/
theorem MayHave.gives {fs : Fields} {name : String} {P : Datum → Prop} (h : MayHave fs name P)
    {default : Datum} (hdefault : P default) : Gives (keyOr (.record fs) name default) P := by
  refine .ok ?_
  cases hd : fs.lookup name with
  | none => exact hdefault
  | some d => exact h d hd

theorem IsSize.gives {d : Datum} (h : IsSize d) : Gives d.asReal fun _ => True := by
  cases h with
  | whole h =>
    obtain ⟨x, hx⟩ := Option.isSome_iff_exists.mp h
    exact ⟨x, by rw [asReal, hx], trivial⟩
  | real x => exact .ok trivial

theorem IsRecords.each {P : Fields → Prop} {d : Datum} (h : IsRecords P d) :
    Gives d.each fun ds => ∀ d ∈ ds, IsRecord P d := by
  cases h with
  | list h => exact .ok h

end Datum

/-! ## Words -/

/-- Every member of a vocabulary is read back from how it is written. -/
def Vocabulary.IsReadable (α : Type) [Vocabulary α] : Prop :=
  ∀ a : α, ofValue? (value a) = some a

theorem VolumeStatus.isReadable : Vocabulary.IsReadable VolumeStatus := by
  intro a
  cases a <;> decide

theorem AttachmentStatus.isReadable : Vocabulary.IsReadable AttachmentStatus := by
  intro a
  cases a <;> decide

theorem SnapshotStatus.isReadable : Vocabulary.IsReadable SnapshotStatus := by
  intro a
  cases a <;> decide

theorem Datum.IsWord.gives [Vocabulary α] (hα : Vocabulary.IsReadable α) {d : Datum}
    (h : IsWord α d) : Gives (d.asWord : Except Fault α) fun _ => True := by
  cases h with
  | text a => exact ⟨a, by rw [asWord, hα a], trivial⟩

theorem Check.word_value [Vocabulary α] (hα : Vocabulary.IsReadable α) (a : α) :
    word (.text (Vocabulary.value a)) = .good a := by
  rw [word, hα a]

namespace Ec2

open Datum

/-! ## Records -/

structure IsAttachment (fs : Fields) : Prop where
  volumeId : Has fs "VolumeId" IsText
  instanceId : Has fs "InstanceId" IsText
  device : MayHave fs "Device" IsText
  status : MayHave fs "State" (IsWord AttachmentStatus)

structure IsVolume (fs : Fields) : Prop where
  volumeId : Has fs "VolumeId" IsText
  status : MayHave fs "State" (IsWord VolumeStatus)
  size : MayHave fs "Size" IsSize
  attachments : MayHave fs "Attachments" (IsRecords IsAttachment)
  zone : MayHave fs "AvailabilityZone" IsText
  snapshotId : MayHave fs "SnapshotId" IsTextOrNull
  created : MayHave fs "CreateTime" IsTime

/-- Any text is the state of a snapshot. -/
structure IsSnapshot (fs : Fields) : Prop where
  snapshotId : Has fs "SnapshotId" IsText
  status : MayHave fs "State" IsText
  size : MayHave fs "VolumeSize" IsSize
  volumeId : MayHave fs "VolumeId" IsText
  description : MayHave fs "Description" IsText
  startTime : MayHave fs "StartTime" IsTime

theorem check_attachment (a : RemoteAttachment) :
    RemoteAttachment.check (datumOf a) = .good a := by
  have hdatum : datumOf a = .record [("volume_id", .text a.volumeId),
      ("instance_id", .text a.instanceId), ("device", .text a.device),
      ("status", .text (Vocabulary.value a.status))] := rfl
  rw [hdatum]
  simp [RemoteAttachment.check, Check.record, Check.field, Table.get?_cons, Check.text,
    Check.word_value AttachmentStatus.isReadable, Functor.map, Seq.seq, Checked.map, Checked.both,
    Checked.under]

theorem check_items {r : Reader α} {f : α → Datum} (h : ∀ a, r (f a) = .good a) (i : Nat)
    (as : List α) : Check.items r i (as.map f) = .good as := by
  induction as generalizing i with
  | nil => rfl
  | cons a as ih =>
    rw [List.map_cons, Check.items, h, ih]
    rfl

theorem check_ofText? (s : Option String) : Check.nullable Check.text (.ofText? s) = .good s := by
  cases s <;> rfl

theorem gives_checked_volume (scope volumeId zone : String) (sizeGb : Float) (status : VolumeStatus)
    (attachments : List RemoteAttachment) (snapshotId : Option String) :
    Gives (checked RemoteVolume.check [("scope", .text scope), ("volume_id", .text volumeId),
      ("size_gb", .real sizeGb), ("availability_zone", .text zone),
      ("status", .text (Vocabulary.value status)),
      ("attachments", .list (attachments.map datumOf)), ("snapshot_id", .ofText? snapshotId),
      ("created_at", .null)]) fun _ => True := by
  refine ⟨⟨scope, volumeId, sizeGb, zone, status, attachments, snapshotId, none⟩, ?_, trivial⟩
  simp [checked, RemoteVolume.check, Check.record, Check.field, Check.fieldOr, Table.get?_cons,
    Check.text, Check.real, Check.tuple, check_items check_attachment, check_ofText?,
    show Check.nullable Check.timestamp .null = .good none from rfl,
    Check.word_value VolumeStatus.isReadable, Functor.map, Seq.seq, Checked.map, Checked.both,
    Checked.under, Checked.orFault]

theorem gives_checked_snapshot (scope snapshotId volumeId description : String) (sizeGb : Float)
    (status : SnapshotStatus) :
    Gives (checked RemoteSnapshot.check [("scope", .text scope), ("snapshot_id", .text snapshotId),
      ("volume_id", .text volumeId), ("size_gb", .real sizeGb),
      ("status", .text (Vocabulary.value status)), ("description", .text description),
      ("start_time", .null)]) fun _ => True := by
  refine ⟨⟨scope, snapshotId, volumeId, sizeGb, status, description, none⟩, ?_, trivial⟩
  simp [checked, RemoteSnapshot.check, Check.record, Check.field, Check.fieldOr, Table.get?_cons,
    Check.text, Check.real, Check.nullable, Check.word_value SnapshotStatus.isReadable,
    Functor.map, Seq.seq, Checked.map, Checked.both, Checked.under, Checked.orFault]

/-- A time that is given is taken out before the check. -/
theorem ite_givenTime {d : Datum} (h : IsTime d) :
    (if (givenTime d).isSome then .null else d) = Datum.null := by
  cases h with
  | null => rfl
  | text h => rw [givenTime, if_pos h]

theorem ofText?_ite_isTruthy {d : Datum} (h : IsTextOrNull d) :
    ∃ s, (if d.isTruthy then d else .null) = .ofText? s := by
  split
  · cases h with
    | ofText? s => exact ⟨s, rfl⟩
  · exact ⟨none, rfl⟩

theorem gives_snapshotStatus (state : String) :
    Gives (snapshotStatus (.text state)) fun _ => True := by
  unfold snapshotStatus
  split
  · exact .ok trivial
  · exact .ok trivial
  · next heq => cases heq
  · next heq => cases heq
  · exact .ok trivial

theorem gives_attachment {d : Datum} (h : IsRecord IsAttachment d) :
    Gives (attachment d) fun _ => True := by
  -- The fields come in the order in which the reading gets at them; so in the records below.
  cases h with
  | record h =>
    refine .bind (h.volumeId.gives.mono ?_)
    rintro _ ⟨volumeId⟩
    refine .bind (h.instanceId.gives.mono ?_)
    rintro _ ⟨instanceId⟩
    refine .bind ((h.device.gives (.text "")).mono ?_)
    rintro _ ⟨device⟩
    refine .bind ((h.status.gives (.text AttachmentStatus.attaching)).mono fun state hstate => ?_)
    refine .bind ((hstate.gives AttachmentStatus.isReadable).mono fun status _ => ?_)
    refine ⟨⟨volumeId, instanceId, device, status⟩, ?_, trivial⟩
    show (RemoteAttachment.check (datumOf (RemoteAttachment.mk ..))).orFault = _
    rw [check_attachment]
    rfl

theorem gives_volume (scope : String) {d : Datum} (h : IsRecord IsVolume d) :
    Gives (volume scope d) fun _ => True := by
  cases h with
  | record h =>
    refine .bind ((h.created.gives .null).mono fun created hcreated => ?_)
    refine .bind (h.volumeId.gives.mono ?_)
    rintro _ ⟨volumeId⟩
    refine .bind ((h.size.gives (.whole (by decide))).mono fun size hsize => ?_)
    refine .bind (hsize.gives.mono fun sizeGb _ => ?_)
    refine .bind ((h.zone.gives (.text "")).mono ?_)
    rintro _ ⟨zone⟩
    refine .bind ((h.status.gives (.text VolumeStatus.creating)).mono fun state hstate => ?_)
    refine .bind ((hstate.gives VolumeStatus.isReadable).mono fun status _ => ?_)
    refine .bind ((h.attachments.gives (.list (by simp))).mono fun items hitems => ?_)
    refine .bind (hitems.each.mono fun ds hds => ?_)
    refine .bind ((Gives.mapM fun d hd => gives_attachment (hds d hd)).mono fun as _ => ?_)
    refine .bind ((h.snapshotId.gives (.ofText? none)).mono fun given hgiven => ?_)
    obtain ⟨snapshotId, hsnapshotId⟩ := ofText?_ite_isTruthy hgiven
    dsimp only
    rw [ite_givenTime hcreated, hsnapshotId]
    exact .bind ((gives_checked_volume scope volumeId zone sizeGb status as snapshotId).mono
      fun v _ => .ok trivial)

theorem gives_snapshot (scope : String) {d : Datum} (h : IsRecord IsSnapshot d) :
    Gives (snapshot scope d) fun _ => True := by
  cases h with
  | record h =>
    refine .bind (h.snapshotId.gives.mono ?_)
    rintro _ ⟨snapshotId⟩
    refine .bind ((h.volumeId.gives (.text "")).mono ?_)
    rintro _ ⟨volumeId⟩
    refine .bind ((h.size.gives (.whole (by decide))).mono fun size hsize => ?_)
    refine .bind (hsize.gives.mono fun sizeGb _ => ?_)
    refine .bind ((h.status.gives (.text "pending")).mono ?_)
    rintro _ ⟨state⟩
    refine .bind ((gives_snapshotStatus state).mono fun status _ => ?_)
    refine .bind ((h.description.gives (.text "")).mono ?_)
    rintro _ ⟨description⟩
    refine .bind ((h.startTime.gives .null).mono fun startTime hstartTime => ?_)
    dsimp only
    rw [ite_givenTime hstartTime]
    exact .bind ((gives_checked_snapshot scope snapshotId volumeId description sizeGb
      status).mono fun s _ => .ok trivial)

end Ec2

end BlockStorage
