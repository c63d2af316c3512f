import BlockStorage.Proofs.Store.Failure

/-!
# The numbers of ids

A store makes ids from two series of numbers, one for volumes and one for snapshots.
Only a creation takes a number, and it takes the next one, whatever happened in
between. So no id is given twice, also when its record is long gone.

A creation that fails takes no number either, unless it fails at the record itself:
that number is spoilt, and the series goes on behind it. Only arguments of a foreign
type do that.

* `Kind`: the two series.
* `Store.answers`: what the operations of a run answered.
* `Store.made`, `Store.spoilt`: the new records of a run, and the numbers it spoilt.
* `Store.run_next`: a run takes a number for each of them.
* `Store.run_serial`: the numbers of a new store's ids.
-/

namespace BlockStorage

/-- What has numbers of its own. -/
inductive Kind
  | volume
  | snapshot
  deriving DecidableEq

/-- What a new record is known by. -/
structure Made where
  id : String
  location : Option String
  deriving DecidableEq

/-- An operation and its answer. -/
structure Answered where
  op : Operation
  answer : Except Fault op.Answer

namespace Kind

/-- What ids of a kind begin with, after their location. -/
def start : Kind → StoreSettings → String
  | volume, settings => settings.volumePrefix
  | snapshot, settings => settings.snapshotPrefix

/-- The next number of a kind. -/
def next : Kind → Store → Nat
  | volume, s => s.nextVolume
  | snapshot, s => s.nextSnapshot

/-- The ids of a kind that are there. -/
def ids : Kind → Store → List String
  | volume, s => s.volumes.keys
  | snapshot, s => s.snapshots.keys

/-- The operation that takes a record out. -/
def takeOut : Kind → String → Operation
  | volume, id => .removeVolume id
  | snapshot, id => .deleteSnapshot id

end Kind

/-- The kind that an operation makes. -/
def Operation.makes? : Operation → Option Kind
  | createVolume _ _ => some .volume
  | createSnapshot _ _ => some .snapshot
  | _ => none

namespace Answered

/-- The new record that was answered. -/
def made? : Kind → Answered → Option Made
  | .volume, ⟨.createVolume _ _, .ok (some v)⟩ => some ⟨v.id, v.location⟩
  | .snapshot, ⟨.createSnapshot _ _, .ok (some n)⟩ => some ⟨n.id, n.location⟩
  | _, _ => none

/-- A creation failed, and not because an argument was refused. -/
def spoils : Kind → Answered → Bool
  | .volume, ⟨.createVolume _ _, .error f⟩ => !f.isArgument
  | .snapshot, ⟨.createSnapshot _ _, .error f⟩ => !f.isArgument
  | _, _ => false

/-- A number was used up, for a record or for nothing. -/
def takes (kind : Kind) (a : Answered) : Bool := (a.made? kind).isSome || a.spoils kind

end Answered

namespace Store

variable {s t : Store} {now : Except Fault Timestamp} {op : Operation}
  {r : Except Fault op.Answer} {kind : Kind} {ops : List Timed} {m : Made} {id : String}

/-! ## One operation -/

theorem orFault_isArgument {α : Type} {c : Checked α} {f : Fault} (h : c.orFault = .error f) :
    f.isArgument = false := by
  cases c with
  | good a => cases h
  | bad issues =>
    obtain rfl := Except.error.inj h
    rfl

theorem name?_isArgument {options : Options} {f : Fault} (h : options.name? = .error f) :
    f.isArgument = false := by
  cases options with
  | snapshot o => cases h
  | _ =>
    obtain rfl := Except.error.inj h
    rfl

theorem createVolume_next (s : Store) (name : Datum) (options : Options) :
    (s.createVolume name options).store.nextVolume = s.nextVolume + (Answered.takes .volume
      ⟨.createVolume name options, (s.createVolume name options).answer⟩).toNat := by
  rw [createVolume]
  split
  · rfl
  · split
    · rfl
    · split
      · rfl
      · dsimp only
        split
        · next f hname =>
          show s.nextVolume + 1 = s.nextVolume + (!f.isArgument).toNat
          rw [orFault_isArgument hname]
          rfl
        · rfl

theorem createSnapshot_next (hnow : ∀ why, now ≠ .error (.argument why)) (s : Store)
    (volume : String) (options : Options) :
    (s.createSnapshot volume options now).store.nextSnapshot = s.nextSnapshot +
      (Answered.takes .snapshot ⟨.createSnapshot volume options,
        (s.createSnapshot volume options now).answer⟩).toNat := by
  rw [createSnapshot]
  split
  · rfl
  · split
    · rfl
    · dsimp only
      split
      · rfl
      · split
        · next f hasked =>
          have hf : f.isArgument = false := by
            rcases asked_eq_error now hasked with ⟨-, hname⟩ | rfl
            · exact name?_isArgument hname
            · cases f with
              | argument why => exact absurd rfl (hnow why)
              | _ => rfl
          show s.nextSnapshot + 1 = s.nextSnapshot + (!f.isArgument).toNat
          rw [hf]
          rfl
        · rfl

/-- Only a creation takes a number of its kind. -/
theorem Effect.next_eq (he : s.Effect now op r t) (hop : op.makes? ≠ some kind) :
    kind.next t = kind.next s := by
  cases he with
  | kept | held | attached | detached | volumeRemoved | snapshotDeleted => cases kind <;> rfl
  | volumeNumbered | volumeCreated =>
    cases kind with
    | volume => exact absurd rfl hop
    | snapshot => rfl
  | snapshotNumbered | snapshotCreated =>
    cases kind with
    | volume => rfl
    | snapshot => exact absurd rfl hop

theorem takes_eq_false (hop : op.makes? ≠ some kind) : Answered.takes kind ⟨op, r⟩ = false := by
  cases op with
  | createVolume name options =>
    cases kind with
    | volume => exact absurd rfl hop
    | snapshot => rfl
  | createSnapshot volume options =>
    cases kind with
    | volume => rfl
    | snapshot => exact absurd rfl hop
  | _ => cases kind <;> rfl

/-- **An operation takes one number, or none.** -/
theorem perform_next (hnow : ∀ why, now ≠ .error (.argument why)) (s : Store) (op : Operation)
    (kind : Kind) :
    kind.next (s.perform now op).store =
      kind.next s + (Answered.takes kind ⟨op, (s.perform now op).answer⟩).toNat := by
  by_cases hop : op.makes? = some kind
  · cases op with
    | createVolume name options =>
      obtain rfl := Option.some.inj hop
      exact s.createVolume_next name options
    | createSnapshot volume options =>
      obtain rfl := Option.some.inj hop
      exact createSnapshot_next hnow s volume options
    | _ => cases hop
  · rw [takes_eq_false hop, (s.perform_effect now op).next_eq hop]
    rfl

/-- To answer with a new record is to affirm. -/
theorem affirms_of_made (hm : Answered.made? kind ⟨op, r⟩ = some m) :
    ∃ a, r = .ok a ∧ op.affirms a = true := by
  cases r with
  | error f => cases op <;> cases kind <;> cases hm
  | ok a =>
    refine ⟨a, rfl, ?_⟩
    cases op with
    | createVolume | createSnapshot =>
      cases a with
      | none => cases kind <;> cases hm
      | some => rfl
    | _ => cases kind <;> cases hm

/-- A new record has the next number, and is where its id says. -/
theorem Effect.made (he : s.Effect now op r t) (hm : Answered.made? kind ⟨op, r⟩ = some m) :
    ∃ location, m.location = some location ∧ kind.next t = kind.next s + 1 ∧
      Handle.encode location (kind.start s.settings ++ toString (kind.next s)) = .ok m.id := by
  cases he with
  | kept hno =>
    obtain ⟨a, hr, ha⟩ := affirms_of_made hm
    exact absurd ha (by rw [hno a hr]; exact Bool.false_ne_true)
  | held | attached | detached | volumeRemoved | snapshotDeleted => cases kind <;> cases hm
  | volumeNumbered | snapshotNumbered => cases kind <;> cases hm
  | volumeCreated _ _ hid hlocation =>
    cases kind with
    | snapshot => cases hm
    | volume =>
      obtain rfl := Option.some.inj hm
      exact ⟨_, hlocation, rfl, hid⟩
  | snapshotCreated _ _ _ hid hlocation =>
    cases kind with
    | volume => cases hm
    | snapshot =>
      obtain rfl := Option.some.inj hm
      exact ⟨_, hlocation, rfl, hid⟩

/-! ## Runs -/

/-- What the operations of a run answer. -/
def answers (s : Store) : List Timed → List Answered
  | [] => []
  | e :: ops =>
    ⟨e.2, (s.perform e.1 e.2).answer⟩ :: (s.perform e.1 e.2).store.answers ops

/-- The new records of a run, in order. -/
def made (kind : Kind) (s : Store) (ops : List Timed) : List Made :=
  (s.answers ops).filterMap (Answered.made? kind)

/-- How many numbers a run used up for nothing. -/
def spoilt (kind : Kind) (s : Store) (ops : List Timed) : Nat :=
  (s.answers ops).countP (Answered.spoils kind)

theorem made_cons (kind : Kind) (s : Store) (e : Timed) (ops : List Timed) :
    s.made kind (e :: ops) = (Answered.made? kind ⟨e.2, (s.perform e.1 e.2).answer⟩).toList ++
      (s.perform e.1 e.2).store.made kind ops := by
  rw [made, answers, List.filterMap_cons]
  cases Answered.made? kind ⟨e.2, (s.perform e.1 e.2).answer⟩ <;> rfl

/-- No operation both makes a record and spoils its number. -/
theorem spoils_of_made {a : Answered} (hm : a.made? kind = some m) : a.spoils kind = false := by
  obtain ⟨op, r⟩ := a
  obtain ⟨answer, rfl, -⟩ := affirms_of_made hm
  cases op <;> cases kind <;> rfl

theorem countP_takes (kind : Kind) (as : List Answered) :
    as.countP (Answered.takes kind) =
      (as.filterMap (Answered.made? kind)).length + as.countP (Answered.spoils kind) := by
  induction as with
  | nil => rfl
  | cons a as ih =>
    rw [List.countP_cons, List.countP_cons, List.filterMap_cons, ih, Answered.takes]
    cases hm : a.made? kind with
    | none => simp [Nat.add_assoc]
    | some m =>
      simp [spoils_of_made hm]
      omega

/-- **A run takes a number for each new record and each that it spoilt**, and no others. -/
theorem run_next (s : Store) (kind : Kind)
    (hclock : ∀ e ∈ ops, ∀ why, e.1 ≠ .error (.argument why)) :
    kind.next (s.run ops) = kind.next s + ((s.made kind ops).length + s.spoilt kind ops) := by
  rw [made, spoilt, ← countP_takes]
  induction ops generalizing s with
  | nil => rfl
  | cons e ops ih =>
    have hstep := perform_next (hclock e List.mem_cons_self) s e.2 kind
    have hrest := ih (s.perform e.1 e.2).store fun e' he' => hclock e' (List.mem_cons_of_mem e he')
    rw [answers, List.countP_cons]
    show kind.next ((s.perform e.1 e.2).store.run ops) = _
    rw [hrest, hstep]
    cases Answered.takes kind ⟨e.2, (s.perform e.1 e.2).answer⟩ with
    | false => simp
    | true =>
      simp
      omega

/-! ## Ids do not come back -/

theorem Issued.mono {start id : String} {next next' : Nat} (h : Issued start next id)
    (hle : next ≤ next') : Issued start next' id := by
  obtain ⟨location, k, hk, hid⟩ := h
  exact ⟨location, k, Nat.lt_of_lt_of_le hk hle, hid⟩

theorem Change.settings (hc : s.Change t) : t.settings = s.settings := by cases hc <;> rfl

theorem Change.next_le (hc : s.Change t) (kind : Kind) : kind.next s ≤ kind.next t := by
  cases hc with
  | kept | attached | detached | volumeRemoved | snapshotDeleted =>
    cases kind <;> exact Nat.le_refl _
  | volumeNumbered | volumeCreated =>
    cases kind with
    | volume => exact Nat.le_succ _
    | snapshot => exact Nat.le_refl _
  | snapshotNumbered | snapshotCreated =>
    cases kind with
    | volume => exact Nat.le_refl _
    | snapshot => exact Nat.le_succ _

/-- An id is only there if it was, or if it has the next number. -/
theorem Change.mem_ids (hc : s.Change t) (h : id ∈ kind.ids t) :
    id ∈ kind.ids s ∨ ∃ location,
      Handle.encode location (kind.start s.settings ++ toString (kind.next s)) = .ok id := by
  cases hc with
  | kept | volumeNumbered | snapshotNumbered => cases kind <;> exact .inl h
  | volumeCreated v location hid =>
    cases kind with
    | snapshot => exact .inl h
    | volume =>
      rcases (Table.mem_keys_put ..).mp h with rfl | hold
      · exact .inr ⟨location, hid⟩
      · exact .inl hold
  | attached v volume a hv | detached v volume hv =>
    cases kind with
    | snapshot => exact .inl h
    | volume => exact .inl ((Table.mem_keys_put_of_get? hv _ id).mp h)
  | volumeRemoved =>
    cases kind with
    | snapshot => exact .inl h
    | volume => exact .inl ((Table.mem_keys_erase ..).mp h).2
  | snapshotCreated v volume handle n _ _ hid =>
    cases kind with
    | volume => exact .inl h
    | snapshot =>
      rcases (Table.mem_keys_put ..).mp h with rfl | hold
      · exact .inr ⟨_, hid⟩
      · exact .inl hold
  | snapshotDeleted =>
    cases kind with
    | volume => exact .inl h
    | snapshot => exact .inl ((Table.mem_keys_erase ..).mp h).2

/-- An id that was given, but is not there any more. -/
structure Gone (kind : Kind) (s : Store) (id : String) : Prop where
  issued : Issued (kind.start s.settings) (kind.next s) id
  absent : id ∉ kind.ids s

theorem Change.gone (hc : s.Change t) (h : s.Gone kind id) : t.Gone kind id := by
  refine ⟨hc.settings ▸ h.issued.mono (hc.next_le kind), fun hmem => ?_⟩
  rcases hc.mem_ids hmem with hold | ⟨location, hid⟩
  · exact h.absent hold
  · exact not_issued hid h.issued

theorem run_gone (h : s.Gone kind id) (ops : List Timed) : (s.run ops).Gone kind id :=
  run_induct h (fun _ _ hold hc => hc.gone hold) ops

/-- A run gives only new ids. -/
theorem made_fresh (hm : m ∈ s.made kind ops) :
    ¬ Issued (kind.start s.settings) (kind.next s) m.id := by
  induction ops generalizing s with
  | nil => cases hm
  | cons e ops ih =>
    rw [made_cons, List.mem_append, Option.mem_toList] at hm
    rcases hm with hfirst | hrest
    · obtain ⟨location, -, -, hid⟩ := (s.perform_effect e.1 e.2).made hfirst
      exact not_issued hid
    · have hc := s.perform_change e.1 e.2
      intro hissued
      refine ih hrest ?_
      rw [hc.settings]
      exact hissued.mono (hc.next_le kind)

/-- **No id is given twice.** -/
theorem made_nodup (s : Store) (kind : Kind) (ops : List Timed) :
    ((s.made kind ops).map (·.id)).Nodup := by
  induction ops generalizing s with
  | nil => exact List.nodup_nil
  | cons e ops ih =>
    rw [made_cons]
    cases hm : Answered.made? kind ⟨e.2, (s.perform e.1 e.2).answer⟩ with
    | none => exact ih _
    | some m =>
      obtain ⟨location, -, hnext, hid⟩ := (s.perform_effect e.1 e.2).made hm
      refine List.nodup_cons.mpr ⟨fun hmem => ?_, ih _⟩
      obtain ⟨m', hm', hsame⟩ := List.mem_map.mp hmem
      refine made_fresh hm' ?_
      rw [hsame, (s.perform_change e.1 e.2).settings, hnext]
      exact issued_self hid

/-- The id of a new record says where it is. -/
theorem made_decoded (hm : m ∈ s.made kind ops) :
    ∃ h, Handle.decode m.id = .ok h ∧ m.location = some h.scope ∧
      Handle.separator ∉ h.localId.toList := by
  induction ops generalizing s with
  | nil => cases hm
  | cons e ops ih =>
    rw [made_cons, List.mem_append, Option.mem_toList] at hm
    rcases hm with hfirst | hrest
    · obtain ⟨location, hlocation, -, hid⟩ := (s.perform_effect e.1 e.2).made hfirst
      exact ⟨_, Handle.decode_encode hid, hlocation, (Handle.encode_eq_ok hid).2.1⟩
    · exact ih hrest

/-- What was taken out had been given, and is not there any more. -/
theorem Numbered.takenOut {r : Except Fault (kind.takeOut id).Answer} (h : s.Numbered)
    (he : s.Effect now (kind.takeOut id) r t)
    (hr : ∃ a, r = .ok a ∧ (kind.takeOut id).affirms a = true) : t.Gone kind id := by
  obtain ⟨a, ha, haffirms⟩ := hr
  cases kind with
  | volume =>
    cases he with
    | kept hno => exact absurd haffirms (by rw [hno a ha]; exact Bool.false_ne_true)
    | volumeRemoved hv =>
      exact ⟨h.volumes id (Table.mem_keys_iff.mpr ⟨_, hv⟩),
        fun hmem => ((Table.mem_keys_erase ..).mp hmem).1 rfl⟩
  | snapshot =>
    cases he with
    | kept hno => exact absurd haffirms (by rw [hno a ha]; exact Bool.false_ne_true)
    | snapshotDeleted hn =>
      exact ⟨h.snapshots id (Table.mem_keys_iff.mpr ⟨_, hn⟩),
        fun hmem => ((Table.mem_keys_erase ..).mp hmem).1 rfl⟩

/-! ## Numbers that are spoilt -/

/-- Only a foreign argument spoils a number, where the clock can be read. -/
theorem spoils_of_typed (s : Store) (kind : Kind) (now : Timestamp) (hop : op.Typed) :
    Answered.spoils kind ⟨op, (s.perform (.ok now) op).answer⟩ = false := by
  rw [Bool.eq_false_iff]
  intro hspoils
  have hfailed : ∀ a, (s.perform (.ok now) op).answer = .ok a → op.affirms a = false := by
    intro a ha
    rw [ha] at hspoils
    cases op <;> cases kind <;> cases hspoils
  rcases (s.perform_effect (.ok now) op).unaffirmed hfailed with hsame | ⟨hforeign, -⟩
  · have hclock : ∀ why, (.ok now : Except Fault Timestamp) ≠ .error (.argument why) :=
      fun _ h => by cases h
    have hnext := perform_next hclock s op kind
    rw [hsame, Answered.takes, hspoils, Bool.or_true] at hnext
    exact absurd hnext (Nat.ne_of_lt (Nat.lt_succ_self _))
  · exact hforeign hop

theorem spoilt_eq_zero (s : Store) (kind : Kind)
    (hops : ∀ e ∈ ops, e.2.Typed ∧ ∃ now, e.1 = .ok now) : s.spoilt kind ops = 0 := by
  induction ops generalizing s with
  | nil => rfl
  | cons e ops ih =>
    obtain ⟨clock, op⟩ := e
    obtain ⟨htyped, now, rfl⟩ := hops _ List.mem_cons_self
    rw [spoilt, answers, List.countP_cons, spoils_of_typed s kind now htyped]
    exact ih _ fun e he => hops e (List.mem_cons_of_mem _ he)

/-! ## The ids of a store -/

/-- How the ids of a kind are numbered, in the runs of a new store. -/
structure Serial (kind : Kind) (s : Store) : Prop where
  /-- The number of a new record counts the records before it and the numbers that were spoilt. -/
  number : ∀ (ops : List Timed) (now : Except Fault Timestamp) (op : Operation) (m : Made),
    (∀ e ∈ ops, ∀ why, e.1 ≠ .error (.argument why)) →
    Answered.made? kind ⟨op, ((s.run ops).perform now op).answer⟩ = some m →
    ∃ location, m.location = some location ∧
      Handle.encode location (kind.start s.settings ++
        toString ((s.made kind ops).length + 1 + s.spoilt kind ops)) = .ok m.id
  /-- Nothing is spoilt by arguments of the declared types. -/
  unspoilt : ∀ ops : List Timed, (∀ e ∈ ops, e.2.Typed ∧ ∃ now, e.1 = .ok now) →
    s.spoilt kind ops = 0
  /-- No id is given twice. -/
  apart : ∀ ops, ((s.made kind ops).map (·.id)).Nodup
  /-- What was taken out is never there again, nor is its id given again. -/
  gone : ∀ (ops : List Timed) (now : Except Fault Timestamp) (id : String)
    (a : (kind.takeOut id).Answer),
    ((s.run ops).perform now (kind.takeOut id)).answer = .ok a →
    (kind.takeOut id).affirms a = true →
    ∀ more, id ∉ kind.ids (s.run (ops ++ [(now, kind.takeOut id)] ++ more)) ∧
      ∀ m ∈ (s.run (ops ++ [(now, kind.takeOut id)])).made kind more, m.id ≠ id
  /-- An id is decoded to the location of its record, and a local id without a separator. -/
  decoded : ∀ ops, ∀ m ∈ s.made kind ops, ∃ h, Handle.decode m.id = .ok h ∧
    m.location = some h.scope ∧ Handle.separator ∉ h.localId.toList

/-- **The ids of a new store are numbered one after the other** and never come back. -/
theorem run_serial {settings : StoreSettings} (hs : Store.new settings = .ok s) (kind : Kind) :
    s.Serial kind where
  number ops now op m hclock hm := by
    obtain ⟨location, hlocation, -, hid⟩ := ((s.run ops).perform_effect now op).made hm
    have hsettings : (s.run ops).settings = s.settings :=
      run_induct (P := fun t => t.settings = s.settings) rfl
        (fun _ _ hold hc => hc.settings.trans hold) ops
    have hfirst : kind.next s = 1 := by
      obtain ⟨volumeType, rfl⟩ := new_eq_ok hs
      cases kind <;> rfl
    have hnumber : kind.next (s.run ops) = (s.made kind ops).length + 1 + s.spoilt kind ops := by
      rw [run_next s kind hclock, hfirst]
      omega
    rw [hsettings, hnumber] at hid
    exact ⟨location, hlocation, hid⟩
  unspoilt ops hops := spoilt_eq_zero s kind hops
  apart ops := made_nodup s kind ops
  gone ops now id a ha haffirms more := by
    have hgone : (s.run (ops ++ [(now, kind.takeOut id)])).Gone kind id := by
      rw [run_concat]
      exact (run_new hs ops).1.takenOut ((s.run ops).perform_effect now _) ⟨a, ha, haffirms⟩
    refine ⟨?_, ?_⟩
    · rw [run_append]
      exact (run_gone hgone more).absent
    · rintro m hm rfl
      exact made_fresh hm hgone.issued
  decoded ops m hm := made_decoded hm

/-- One volume is removed, and the next one has the next number. -/
theorem successor_serial :
    let now : Except Fault Timestamp := .ok ⟨2024, 1, 1, 0, 0, 0, 0, .given 0⟩
    let order : Operation :=
      .createVolume .null (.volume { sizeGb := some 8.0, location := some "us-east-1" })
    let ops : List Timed := [(now, order), (now, .removeVolume "us-east-1/vol-1")]
    let s : Store := { settings := {}, volumeType := .localDisk }
    Store.new {} = .ok s ∧ s.Serial .volume ∧
      Answered.made? .volume ⟨order, ((s.run ops).perform now order).answer⟩ =
        some ⟨"us-east-1/vol-2", some "us-east-1"⟩ ∧
      "us-east-1/vol-1" ∉ Kind.volume.ids (s.run (ops ++ [(now, order)])) := by
  have hnew : Store.new {} = .ok { settings := {}, volumeType := .localDisk } := rfl
  have hserial := run_serial hnew .volume
  refine ⟨hnew, hserial, by decide +kernel, ?_⟩
  exact (hserial.gone [_] _ "us-east-1/vol-1" true rfl rfl [_]).1

/-- A creation with a name of a foreign type fails, and the first volume is given the second
number. -/
theorem first_volume_numbered_two :
    let now : Except Fault Timestamp := .ok ⟨2024, 1, 1, 0, 0, 0, 0, .given 0⟩
    let create (name : Datum) : Timed :=
      (now, .createVolume name (.volume { sizeGb := some 1.0, location := some "us-east-1" }))
    let s : Store := { settings := {}, volumeType := .localDisk }
    Store.new {} = .ok s ∧
      s.made .volume [create (.int 5), create .null] =
        [⟨"us-east-1/vol-2", some "us-east-1"⟩] ∧
      Handle.encode "us-east-1" (Kind.volume.start s.settings ++ toString 1) ≠
        .ok "us-east-1/vol-2" := by
  refine ⟨rfl, by decide +kernel, fun h => ?_⟩
  have hid : "us-east-1/vol-1" = "us-east-1/vol-2" := Except.ok.inj h
  exact absurd hid (by decide)

end Store

end BlockStorage
