import BlockStorage.Proofs.Store.Exact

/-!
# Operations that fail

An operation looks at everything that can stop it before it writes. The one
exception is a record that cannot be built: its number is used up by then. Only
arguments of a foreign type come that far.

* `Operation.Typed`: arguments of the types that an operation declares.
* `Store.Sparing`: when an operation leaves a store as it is.
* `Store.run_sparing`: every operation on a store that was worked with is sparing.
-/

namespace BlockStorage

namespace Operation

/-- The arguments are of the declared types: the name of a volume is a text, if there is one, and
the options of a snapshot are of their kind. -/
def Typed : Operation → Prop
  | createVolume name _ => name = .null ∨ ∃ text, name = .text text
  | createSnapshot _ options => options.isGiven = false ∨ ∃ o, options = .snapshot o
  | _ => True

end Operation

namespace Store

variable {s t : Store} {op : Operation} {r : Except Fault op.Answer}

/-- An operation uses up a number of its kind, and does nothing else. -/
inductive Spends (s : Store) : Operation → Store → Prop
  | volumeNumber {name : Datum} {options : Options} :
      Spends s (.createVolume name options) { s with nextVolume := s.nextVolume + 1 }
  | snapshotNumber {volume : String} {options : Options} :
      Spends s (.createSnapshot volume options) { s with nextSnapshot := s.nextSnapshot + 1 }

/-- What an operation does that affirms nothing. -/
theorem Effect.unaffirmed {now : Timestamp} (he : s.Effect (.ok now) op r t)
    (hr : ∀ a, r = .ok a → op.affirms a = false) : t = s ∨ ¬ op.Typed ∧ s.Spends op t := by
  cases he with
  | kept | held => exact .inl rfl
  | volumeNumbered hname =>
    refine .inr ⟨?_, .volumeNumber⟩
    rintro (rfl | ⟨text, rfl⟩)
    · cases hname
    · cases hname
  | snapshotNumbered h =>
    refine .inr ⟨?_, .snapshotNumber⟩
    rcases h with ⟨hgiven, hname⟩ | hnow
    · rintro (hleft | ⟨o, rfl⟩)
      · rw [hleft] at hgiven
        cases hgiven
      · cases hname
    · cases hnow
  | volumeCreated | attached | detached | volumeRemoved | snapshotCreated | snapshotDeleted =>
    cases hr _ rfl

/-! ## Attachments -/

/-- A volume and the node that holds it are of one scope. -/
def Joined (s : Store) : Prop :=
  ∀ volume a, s.attachments.get? volume = some a →
    ∃ ends, Handle.sameScope volume a.node = .ok ends

theorem Effect.joined {now : Except Fault Timestamp} (he : s.Effect now op r t) (h : s.Joined) :
    t.Joined := by
  cases he with
  | kept | held | volumeNumbered | volumeCreated | snapshotNumbered | snapshotCreated
  | snapshotDeleted => exact h
  | attached hscope =>
    intro volume a ha
    rcases Table.get?_put_eq_some.mp ha with ⟨rfl, rfl⟩ | ⟨-, hold⟩
    · exact ⟨_, hscope⟩
    · exact h volume a hold
  | detached | volumeRemoved =>
    intro volume a ha
    exact h volume a (Table.get?_erase_eq_some.mp ha).2

/-- The node that holds a volume may ask for it again, by any device. -/
theorem attachVolume_held (hexact : s.Exact) (hjoined : s.Joined) {volume node device : String}
    {options : Options} (hnode : s.holder volume = some node)
    (hdevice : options.requiredDevice = .ok device) :
    s.attachVolume volume node options = s.answering (.ok true) := by
  obtain ⟨a, ha, rfl⟩ := Option.map_eq_some_iff.mp hnode
  obtain ⟨ends, hscope⟩ := hjoined volume a ha
  rw [attachVolume, hdevice]
  simp only [hscope]
  cases hv : s.volumes.get? volume with
  | none =>
    rw [hexact.get?_attachments hv] at ha
    cases ha
  | some v => simp only [ha, if_true]

/-! ## Sparing operations -/

/-- When an operation leaves a store as it is. -/
structure Sparing (s : Store) (now : Except Fault Timestamp) (op : Operation) : Prop where
  /-- It fails or answers no; at most a number is used up, and that by foreign arguments. -/
  spared : (∃ f, (s.perform now op).answer = .error f) ∨
      (s.perform now op).answer = .ok op.negative →
    (s.perform now op).store = s ∨ ¬ op.Typed ∧ s.Spends op (s.perform now op).store
  /-- It only reads. -/
  reading : op.changing? = none → (s.perform now op).store = s
  /-- It attaches a volume to the node that holds it. -/
  held : ∀ volume node options device, s.holder volume = some node →
    options.requiredDevice = .ok device →
    s.perform now (.attachVolume volume node options) = s.answering (.ok true)

/-- **An operation that fails, answers no, or only reads spares the store**, and so does one that
attaches a volume where it is attached. -/
theorem run_sparing {settings : StoreSettings} (hs : Store.new settings = .ok s) (ops : List Timed)
    (now : Timestamp) (op : Operation) : (s.run ops).Sparing (.ok now) op := by
  have hexact := (run_new hs ops).2
  have hjoined : (s.run ops).Joined := by
    obtain ⟨volumeType, rfl⟩ := new_eq_ok hs
    refine run_effect_induct (P := Joined) ?_ ops fun _ _ _ _ _ _ hold he => he.joined hold
    intro volume a ha
    cases ha
  have heffect := (s.run ops).perform_effect (.ok now) op
  constructor
  · intro hanswer
    refine heffect.unaffirmed fun a ha => ?_
    rcases hanswer with ⟨f, hf⟩ | hno
    · rw [hf] at ha
      cases ha
    · rw [hno] at ha
      rw [← Except.ok.inj ha]
      exact op.affirms_negative
  · intro hreads
    rcases heffect.unaffirmed fun a _ => op.affirms_of_reading hreads a with hsame | ⟨-, hspends⟩
    · exact hsame
    · generalize (Store.perform _ _ op).store = t at hspends
      cases hspends <;> cases hreads
  · intro volume node options device hnode hdevice
    exact attachVolume_held hexact hjoined hnode hdevice

/-- A volume is attached to its node once more, by another device. -/
theorem reattached_spared :
    let now : Timestamp := ⟨2024, 1, 1, 0, 0, 0, 0, .given 0⟩
    let ops : List Timed :=
      [(.ok now, .createVolume .null
          (.volume { sizeGb := some 8.0, location := some "us-east-1" })),
        (.ok now, .attachVolume "us-east-1/vol-1" "us-east-1/i-1" (.attach ⟨"/dev/sdh"⟩))]
    let again : Operation :=
      .attachVolume "us-east-1/vol-1" "us-east-1/i-1" (.attach ⟨"/dev/sdi"⟩)
    let s : Store := { settings := {}, volumeType := .localDisk }
    Store.new {} = .ok s ∧ (s.run ops).Sparing (.ok now) again ∧
      (s.run ops).perform (.ok now) again = (s.run ops).answering (.ok true) := by
  have hnew : Store.new {} = .ok { settings := {}, volumeType := .localDisk } := rfl
  have hsparing := run_sparing hnew
  exact ⟨hnew, hsparing _ _ _, (hsparing _ _ .listVolumes).held _ _ _ "/dev/sdi" rfl rfl⟩

/-- A name that is not a text stops the creation, but its number is used up. -/
theorem foreign_name_spends :
    let now : Timestamp := ⟨2024, 1, 1, 0, 0, 0, 0, .given 0⟩
    let op : Operation :=
      .createVolume (.int 5) (.volume { sizeGb := some 1.0, location := some "us-east-1" })
    let s : Store := { settings := {}, volumeType := .localDisk }
    Store.new {} = .ok s ∧ (∃ f, (s.perform (.ok now) op).answer = .error f) ∧
      (s.perform (.ok now) op).store.nextVolume ≠ s.nextVolume :=
  ⟨rfl, ⟨_, rfl⟩, by decide +kernel⟩

end Store

end BlockStorage
