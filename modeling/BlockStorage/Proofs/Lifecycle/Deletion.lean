import BlockStorage.Proofs.Lifecycle.Absence
import BlockStorage.Proofs.Lifecycle.Refusal

/-!
# What a deletion tells

A deletion succeeds if the resource was there and is gone, whoever has deleted it and
whenever the flow learns of it: at the request, at a look that finds nothing, or from
the state that a look shows. A volume is watched for as long as the budget allows; a
snapshot gets one more look.

One volume is not watched to its end: one that is gone when the look before has shown
it under a scope and a local id that make no handle. The flow tells of a missing
volume by its handle, so there is no telling that it is gone, and the wait breaks off.

* `Lifecycle.Vanishes`, `Lifecycle.Lingers`, `Lifecycle.Nameless`: what the looks of a
  wait find.
* `Lifecycle.watched_of_course`: how the wait ends then.
* `Lifecycle.RemovalTold`, `Lifecycle.DeletionTold`: what the two flows make of it.
* `Lifecycle.deletions_told`: over every gateway.
-/

namespace BlockStorage

/-- What a look at a resource finds, if it finds anything. -/
abbrev Look (τ : Type) := Except Fault (Option τ)

namespace Exchange

/-- What is seen of the volume that was looked at. -/
def volumeLook? : Exchange → Option (Look RemoteVolume)
  | ⟨.describeVolumes _ [id], outcome⟩ => some (Lifecycle.foundVolume id outcome)
  | _ => none

/-- What is seen of the snapshot that was looked at. -/
def snapshotLook? : Exchange → Option (Look RemoteSnapshot)
  | ⟨.describeSnapshots _ (some [id]) none, outcome⟩ => some (Lifecycle.foundSnapshot id outcome)
  | _ => none

/-- How the provider takes the request to delete something. -/
def deletion? : Exchange → Option (Except Fault Unit)
  | ⟨.deleteVolume _ _, outcome⟩ => some outcome
  | ⟨.deleteSnapshot _ _, outcome⟩ => some outcome
  | _ => none

end Exchange

namespace Lifecycle

variable {γ : Type} {c : Lifecycle γ}

/-! ## What looks find -/

/-- What is seen of a volume, one look after the other. -/
def volumeLooks (xs : List Exchange) : List (Look RemoteVolume) := xs.filterMap (·.volumeLook?)

/-- What is seen of a snapshot, one look after the other. -/
def snapshotLooks (xs : List Exchange) : List (Look RemoteSnapshot) :=
  xs.filterMap (·.snapshotLook?)

/-- How the provider takes the requests to delete something. -/
def deletions (xs : List Exchange) : List (Except Fault Unit) := xs.filterMap (·.deletion?)

section Lists

variable {xs ys : List Exchange} {scope id : String} {d : Except Fault Unit}

@[simp] theorem volumeLooks_nil : volumeLooks [] = [] := rfl

@[simp] theorem volumeLooks_describe {outcome : Except Fault (List (Option RemoteVolume))} :
    volumeLooks (⟨.describeVolumes scope [id], outcome⟩ :: xs) =
      foundVolume id outcome :: volumeLooks xs := rfl

@[simp] theorem volumeLooks_delete :
    volumeLooks (⟨.deleteVolume scope id, d⟩ :: xs) = volumeLooks xs := rfl

theorem volumeLooks_append : volumeLooks (xs ++ ys) = volumeLooks xs ++ volumeLooks ys :=
  List.filterMap_append

@[simp] theorem snapshotLooks_nil : snapshotLooks [] = [] := rfl

@[simp] theorem snapshotLooks_describe {outcome : Except Fault (List (Option RemoteSnapshot))} :
    snapshotLooks (⟨.describeSnapshots scope (some [id]) none, outcome⟩ :: xs) =
      foundSnapshot id outcome :: snapshotLooks xs := rfl

@[simp] theorem snapshotLooks_delete :
    snapshotLooks (⟨.deleteSnapshot scope id, d⟩ :: xs) = snapshotLooks xs := rfl

@[simp] theorem deletions_nil : deletions [] = [] := rfl

@[simp] theorem deletions_describeVolumes {outcome : Except Fault (List (Option RemoteVolume))} :
    deletions (⟨.describeVolumes scope [id], outcome⟩ :: xs) = deletions xs := rfl

@[simp] theorem deletions_describeSnapshots
    {outcome : Except Fault (List (Option RemoteSnapshot))} :
    deletions (⟨.describeSnapshots scope (some [id]) none, outcome⟩ :: xs) = deletions xs := rfl

@[simp] theorem deletions_deleteVolume :
    deletions (⟨.deleteVolume scope id, d⟩ :: xs) = d :: deletions xs := rfl

@[simp] theorem deletions_deleteSnapshot :
    deletions (⟨.deleteSnapshot scope id, d⟩ :: xs) = d :: deletions xs := rfl

theorem deletions_append : deletions (xs ++ ys) = deletions xs ++ deletions ys :=
  List.filterMap_append

end Lists

/-- The volume is not there, or is on record as deleted. -/
inductive Absent : Look RemoteVolume → Prop
  | missing : Absent (.ok none)
  | deleted {v : RemoteVolume} (h : v.isDeleted = true) : Absent (.ok (some v))

/-- One of the first `n` looks finds the volume absent, and none before it fails. -/
inductive Vanishes : Nat → List (Look RemoteVolume) → Prop
  | now {n : Nat} {look : Look RemoteVolume} {looks : List (Look RemoteVolume)}
      (h : Absent look) : Vanishes (n + 1) (look :: looks)
  | later {n : Nat} {v : RemoteVolume} {looks : List (Look RemoteVolume)} (h : Vanishes n looks) :
      Vanishes (n + 1) (.ok (some v) :: looks)

/-- From a volume on there are `n` looks, which show it as it was shown last, and never as
deleted. -/
inductive Lingers : Nat → RemoteVolume → List (Look RemoteVolume) → RemoteVolume → Prop
  | last {v : RemoteVolume} (h : v.isDeleted = false) : Lingers 0 v [] v
  | shown {n : Nat} {v u last : RemoteVolume} {looks : List (Look RemoteVolume)}
      (h : v.isDeleted = false) (rest : Lingers n u looks last) :
      Lingers (n + 1) v (.ok (some u) :: looks) last

/-- From a volume on the looks show it, until it is missing; and what the last one has shown makes
no handle. -/
inductive Nameless : RemoteVolume → List (Look RemoteVolume) → BadArgument → Prop
  | missing {v : RemoteVolume} {why : BadArgument} {looks : List (Look RemoteVolume)}
      (h : Handle.encode v.scope v.volumeId = .error why) : Nameless v (.ok none :: looks) why
  | shown {v u : RemoteVolume} {why : BadArgument} {looks : List (Look RemoteVolume)}
      (rest : Nameless u looks why) : Nameless v (.ok (some u) :: looks) why

theorem vanishes_cons {n : Nat} {look : Look RemoteVolume} {looks : List (Look RemoteVolume)} :
    Vanishes (n + 1) (look :: looks) ↔
      Absent look ∨ ∃ v, look = .ok (some v) ∧ Vanishes n looks := by
  constructor
  · intro h
    cases h with
    | now h => exact .inl h
    | later h => exact .inr ⟨_, rfl, h⟩
  · rintro (h | ⟨v, rfl, h⟩)
    · exact .now h
    · exact .later h

theorem absent_some {v : RemoteVolume} : Absent (.ok (some v)) ↔ v.isDeleted = true :=
  ⟨fun h => by cases h; assumption, .deleted⟩

theorem not_vanishes_nil {n : Nat} : ¬ Vanishes n [] := fun h => nomatch h

theorem not_nameless_nil {v : RemoteVolume} {why : BadArgument} : ¬ Nameless v [] why :=
  fun h => nomatch h

/-- A look that fails does not fail because something is missing. -/
theorem told_of_lost {α β : Type} {g : Option α → Option β} {outcome : Except Fault α} {f : Fault}
    (h : (orNone outcome).map g = .error f) : f.isNotFound = false := by
  cases outcome with
  | ok a => cases h
  | error f' =>
    rw [orNone] at h
    cases hf : f'.isNotFound with
    | true =>
      rw [hf] at h
      cases h
    | false =>
      rw [hf] at h
      rwa [← Except.error.inj h]

theorem told_of_refused {δ : Type} {e : Except BadArgument δ} {f : Fault}
    (h : e.mapError Fault.argument = .error f) : f.isNotFound = false := by
  cases e with
  | ok d => cases h
  | error why =>
    rw [← Except.error.inj h]
    rfl

/-! ## The wait -/

/-- One look at a volume that was shown before: it shows the volume, finds it missing, or fails. -/
theorem VolumeLook.cases {v : RemoteVolume} {xs : List Exchange} {r : Except Fault RemoteVolume}
    (h : VolumeLook v xs r) :
    ∃ look, volumeLooks xs = [look] ∧ deletions xs = [] ∧
      ((∃ u, look = .ok (some u) ∧ r = .ok u) ∨
        (look = .ok none ∧ r = .error (goneFault v.scope v.volumeId)) ∨
        ∃ f, look = .error f ∧ f.isNotFound = false ∧ r = .error f) := by
  obtain ⟨outcome, rfl, rfl⟩ := h
  refine ⟨foundVolume v.volumeId outcome, rfl, rfl, ?_⟩
  cases hfound : foundVolume v.volumeId outcome with
  | ok found =>
    cases found with
    | none => exact .inr (.inl ⟨rfl, rfl⟩)
    | some u => exact .inl ⟨u, rfl, rfl⟩
  | error f => exact .inr (.inr ⟨f, rfl, told_of_lost hfound, rfl⟩)

/-- What a wait for a volume to be deleted makes of what its looks find, with `n` of them to go and
`used` done. -/
structure Watched (n used : Nat) (v : RemoteVolume) (looks : List (Look RemoteVolume))
    (r : Except Fault (Option RemoteVolume)) : Prop where
  ok_iff : (∃ last, r = .ok last) ↔
    (v.isDeleted = true ∨ Vanishes n looks) ∧ ∀ why, ¬ Nameless v looks why
  nameless : ∀ why, Nameless v looks why → r = .error (.argument why)
  lingers : ∀ last, Lingers n v looks last →
    r = .error (.pollTimeout "volume_deleted" (used + n : Nat) (Viewed.view last))
  told : ∀ f, r = .error f → f.isNotFound = false

/-- A wait that is over from the start on. -/
theorem Watched.of_deleted {n used : Nat} {v : RemoteVolume} (h : v.isDeleted = true) :
    Watched n used v [] (.ok (some v)) where
  ok_iff := ⟨fun _ => ⟨.inl h, fun _ => not_nameless_nil⟩, fun _ => ⟨_, rfl⟩⟩
  nameless _ hname := absurd hname not_nameless_nil
  lingers last hlingers := by
    cases hlingers with
    | last hlasts => cases h.symm.trans hlasts
  told f hf := by cases hf

/-- A wait that ends without a look, and without success. -/
theorem Watched.of_error {n used : Nat} {v : RemoteVolume} {f : Fault} (h : v.isDeleted = false)
    (hlast : n = 0 → f = .pollTimeout "volume_deleted" used (Viewed.view v))
    (hf : f.isNotFound = false) : Watched n used v [] (.error f) where
  ok_iff := by
    constructor
    · rintro ⟨last, hlast⟩
      cases hlast
    rintro ⟨hgone, -⟩
    rcases hgone with hdeleted | hvanishes
    · cases h.symm.trans hdeleted
    · exact absurd hvanishes not_vanishes_nil
  nameless _ hname := absurd hname not_nameless_nil
  lingers last hlingers := by
    cases hlingers with
    | last => rw [hlast rfl]; rfl
  told _ he := Except.error.inj he ▸ hf

/-- A look that finds the volume missing, or fails. -/
theorem Watched.of_last {n used : Nat} {v : RemoteVolume} {look : Look RemoteVolume}
    {r : Except Fault (Option RemoteVolume)} (h : v.isDeleted = false)
    (hlook : ∀ u, look ≠ .ok (some u))
    (hok : (∃ last, r = .ok last) ↔ look = .ok none ∧ ∀ why, ¬ Nameless v [look] why)
    (hname : ∀ why, Nameless v [look] why → r = .error (.argument why))
    (htold : ∀ f, r = .error f → f.isNotFound = false) : Watched (n + 1) used v [look] r where
  ok_iff := by
    have habsent : (v.isDeleted = true ∨ Vanishes (n + 1) [look]) ↔ look = .ok none := by
      rw [h, vanishes_cons]
      constructor
      · rintro (hdeleted | habsent | ⟨u, rfl, -⟩)
        · cases hdeleted
        · cases habsent with
          | missing => rfl
          | deleted => exact absurd rfl (hlook _)
        · exact absurd rfl (hlook u)
      · rintro rfl
        exact .inr (.inl .missing)
    rw [habsent]
    exact hok
  nameless := hname
  lingers last hlingers := by
    cases hlingers with
    | shown => exact absurd rfl (hlook _)
  told := htold

/-- A look that shows the volume, and the wait from there on. -/
theorem Watched.cons {n used : Nat} {v u : RemoteVolume} {looks : List (Look RemoteVolume)}
    {r : Except Fault (Option RemoteVolume)} (h : v.isDeleted = false)
    (hrest : Watched n (used + 1) u looks r) :
    Watched (n + 1) used v (.ok (some u) :: looks) r where
  ok_iff := by
    have hname : (∀ why, ¬ Nameless v (.ok (some u) :: looks) why) ↔
        ∀ why, ¬ Nameless u looks why :=
      forall_congr' fun why => not_congr ⟨fun | .shown rest => rest, .shown⟩
    rw [hname, hrest.ok_iff, h, vanishes_cons, absent_some]
    simp
  nameless why hname := by
    cases hname with
    | shown hname => exact hrest.nameless why hname
  lingers last hlingers := by
    cases hlingers with
    | shown _ hlingers =>
      rw [hrest.lingers last hlingers, Nat.add_assoc, Nat.add_comm 1]
  told := hrest.told

theorem nameless_single {v : RemoteVolume} {look : Look RemoteVolume} {why : BadArgument} :
    Nameless v [look] why ↔ look = .ok none ∧ Handle.encode v.scope v.volumeId = .error why := by
  constructor
  · rintro (hname | hname)
    · exact ⟨rfl, hname⟩
    · exact absurd hname not_nameless_nil
  · rintro ⟨rfl, hname⟩
    exact .missing hname

theorem Watched.of_missing {n used : Nat} {v : RemoteVolume} (h : v.isDeleted = false)
    (hname : ∀ why, Handle.encode v.scope v.volumeId ≠ .error why) :
    Watched (n + 1) used v [.ok none] (.ok none) := by
  have hnamed : ∀ why, ¬ Nameless v [.ok none] why := fun why hn =>
    hname why (nameless_single.mp hn).2
  exact .of_last h (fun u hu => by cases hu) ⟨fun _ => ⟨rfl, hnamed⟩, fun _ => ⟨none, rfl⟩⟩
    (fun why hn => absurd hn (hnamed why)) (fun f hf => by cases hf)

theorem Watched.of_nameless {n used : Nat} {v : RemoteVolume} {why : BadArgument}
    (h : v.isDeleted = false) (hname : Handle.encode v.scope v.volumeId = .error why) :
    Watched (n + 1) used v [.ok none] (.error (.argument why)) := by
  refine .of_last h (fun u hu => by cases hu) ⟨?_, ?_⟩ ?_ ?_
  · rintro ⟨last, hlast⟩
    cases hlast
  · rintro ⟨-, hnamed⟩
    exact absurd (.missing hname) (hnamed why)
  · intro why' hn
    rw [Except.error.inj (hname.symm.trans (nameless_single.mp hn).2)]
  · intro f hf
    rw [← Except.error.inj hf]
    rfl

theorem Watched.of_failure {n used : Nat} {v : RemoteVolume} {f : Fault} (h : v.isDeleted = false)
    (hf : f.isNotFound = false) : Watched (n + 1) used v [.error f] (.error f) := by
  refine .of_last h (fun u hu => by cases hu) ⟨?_, ?_⟩ ?_ ?_
  · rintro ⟨last, hlast⟩
    cases hlast
  · rintro ⟨hnone, -⟩
    cases hnone
  · intro why hn
    cases (nameless_single.mp hn).1
  · intro f' hf'
    rwa [← Except.error.inj hf']

/-- **Every wait for a volume to be deleted ends as its looks say.** -/
theorem watched_of_course {left used total : Nat} {v : RemoteVolume} {xs : List Exchange}
    {ending : Ending RemoteVolume}
    (h : c.removalWait.Course VolumeLook left used v xs ending total) :
    Watched left used v (volumeLooks xs) (c.removalWait.answer total ending) ∧
      deletions xs = [] := by
  induction h with
  | failed h => cases h
  | ready _ h => exact ⟨.of_deleted h, rfl⟩
  | exhausted h => exact ⟨.of_error h.2 (fun _ => rfl) rfl, rfl⟩
  | cancelled h => exact ⟨.of_error h.2 (fun hnone => by cases hnone) rfl, rfl⟩
  | fetched h hfetch _ ih =>
    obtain ⟨look, hlook, hdeletion, ⟨u, rfl, hu⟩ | ⟨-, hu⟩ | ⟨f, -, -, hu⟩⟩ := hfetch.cases
    · obtain rfl := Except.ok.inj hu
      rw [volumeLooks_append, deletions_append, hlook, hdeletion]
      exact ⟨ih.1.cons h.2, ih.2⟩
    · cases hu
    · cases hu
  | gone h hfetch hgone =>
    obtain ⟨look, hlook, hdeletion, ⟨u, -, hu⟩ | ⟨rfl, hu⟩ | ⟨f, -, hf, hu⟩⟩ := hfetch.cases
    · cases hu
    · obtain rfl := Except.error.inj hu
      rw [hlook]
      refine ⟨.of_missing h.2 fun why hname => ?_, hdeletion⟩
      rw [goneFault, hname] at hgone
      cases hgone.1
    · obtain rfl := Except.error.inj hu
      cases hf.symm.trans hgone.1
  | @broken left used v es why h hfetch hgone =>
    obtain ⟨look, hlook, hdeletion, ⟨u, -, hu⟩ | ⟨rfl, hu⟩ | ⟨f, rfl, hf, hu⟩⟩ := hfetch.cases
    · cases hu
    · obtain rfl := Except.error.inj hu
      obtain hmissing | ⟨why, hwhy, hfault⟩ := goneFault_cases v.scope v.volumeId
      · exact absurd ⟨hmissing, rfl⟩ hgone
      · rw [hlook, hfault]
        exact ⟨.of_nameless h.2 hwhy, hdeletion⟩
    · obtain rfl := Except.error.inj hu
      rw [hlook]
      exact ⟨.of_failure h.2 hf, hdeletion⟩

/-- The wait looks at no other volume. -/
theorem describes_of_course {left used total : Nat} {v : RemoteVolume} {xs : List Exchange}
    {ending : Ending RemoteVolume}
    (h : c.removalWait.Course VolumeLook left used v xs ending total) :
    ∀ x ∈ xs, ∃ scope, x.request = .describeVolumes scope [v.volumeId] := by
  induction h with
  | fetched _ hfetch _ ih =>
    have hid := hfetch.shows.2
    obtain ⟨outcome, rfl, -⟩ := hfetch
    intro x hx
    rcases List.mem_append.mp hx with hx | hx
    · rw [List.mem_singleton.mp hx]
      exact ⟨_, rfl⟩
    · obtain ⟨scope, hscope⟩ := ih x hx
      exact ⟨scope, by rw [hscope, hid]⟩
  | gone _ hfetch _ =>
    obtain ⟨outcome, rfl, -⟩ := hfetch
    intro x hx
    rw [List.mem_singleton.mp hx]
    exact ⟨_, rfl⟩
  | broken _ hfetch _ =>
    obtain ⟨outcome, rfl, -⟩ := hfetch
    intro x hx
    rw [List.mem_singleton.mp hx]
    exact ⟨_, rfl⟩
  | _ => exact fun x hx => absurd hx List.not_mem_nil

/-! ## Volumes -/

/-- The volume was there at first, and has gone: before the request to delete it, or by then, or
within `n` looks after it. -/
inductive Removed (n : Nat) : List (Look RemoteVolume) → List (Except Fault Unit) → Prop
  | gone {v : RemoteVolume} {later : List (Look RemoteVolume)} {f : Fault}
      (h : f.isNotFound = true) : Removed n (.ok (some v) :: later) [.error f]
  | deleted {v : RemoteVolume} {later : List (Look RemoteVolume)} (h : v.isDeleted = true) :
      Removed n (.ok (some v) :: later) [.ok ()]
  | vanished {v : RemoteVolume} {later : List (Look RemoteVolume)} (h : Vanishes n later) :
      Removed n (.ok (some v) :: later) [.ok ()]

/-- What the removal of a volume makes of its looks, and of how the provider takes the request. -/
structure RemovalTold (n : Nat) (looks : List (Look RemoteVolume)) (ds : List (Except Fault Unit))
    (r : Except Fault Bool) : Prop where
  /-- It succeeds if the volume has gone, unless that volume cannot be told of. -/
  succeeds_iff : r = .ok true ↔
    Removed n looks ds ∧ ∀ v later why, looks = .ok (some v) :: later → ¬ Nameless v later why
  /-- Then the argument is refused. -/
  nameless : ∀ v later why, looks = .ok (some v) :: later → Nameless v later why →
    r = .error (.argument why)
  /-- A volume that stays is waited for until the budget is used up. -/
  lingers : ∀ v later last, looks = .ok (some v) :: later → ds = [.ok ()] →
    Lingers n v later last → r = .error (.pollTimeout "volume_deleted" n (Viewed.view last))
  negative_iff : r = .ok false ↔ looks = [.ok none]
  /-- That the volume is missing is no failure. -/
  told : ∀ f, r = .error f → f.isNotFound = false

/-- A removal that fails before a volume is seen. -/
theorem RemovalTold.of_unseen {n : Nat} {looks : List (Look RemoteVolume)}
    {r : Except Fault Bool} (hlooks : ∀ v later, looks ≠ .ok (some v) :: later)
    (hnegative : r = .ok false ↔ looks = [.ok none]) (hsucceeds : r ≠ .ok true)
    (htold : ∀ f, r = .error f → f.isNotFound = false) : RemovalTold n looks [] r where
  succeeds_iff := ⟨fun h => absurd h hsucceeds, fun ⟨h, _⟩ => nomatch h⟩
  nameless v later _ h := absurd h (hlooks v later)
  lingers v later _ h := absurd h (hlooks v later)
  negative_iff := hnegative
  told := htold

/-- A removal whose request fails. -/
theorem RemovalTold.of_refused {n : Nat} {v : RemoteVolume} {f : Fault} {r : Except Fault Bool}
    (h : (f.isNotFound = true ∧ r = .ok true) ∨ (f.isNotFound = false ∧ r = .error f)) :
    RemovalTold n [.ok (some v)] [.error f] r := by
  have hnamed : ∀ u later why, [Except.ok (some v)] = .ok (some u) :: later →
      ¬ Nameless u later why := by
    rintro u later why heq
    obtain ⟨-, rfl⟩ := List.cons.inj heq
    exact not_nameless_nil
  refine ⟨?_, fun u later why heq hname => absurd hname (hnamed u later why heq),
    fun u later last _ hds => by simp at hds, ?_, ?_⟩
  · rcases h with ⟨hf, rfl⟩ | ⟨hf, rfl⟩
    · exact ⟨fun _ => ⟨.gone hf, hnamed⟩, fun _ => rfl⟩
    · refine ⟨by simp, ?_⟩
      rintro ⟨hgone | _ | _, -⟩
      cases hf.symm.trans hgone
  · rcases h with ⟨-, rfl⟩ | ⟨-, rfl⟩ <;> simp
  · rintro f' rfl
    rcases h with ⟨-, heq⟩ | ⟨hf, heq⟩
    · cases heq
    · rwa [Except.error.inj heq]

/-- A removal that waits. -/
theorem RemovalTold.of_watched {n : Nat} {v : RemoteVolume} {looks : List (Look RemoteVolume)}
    {r : Except Fault (Option RemoteVolume)} (h : Watched n 0 v looks r) :
    RemovalTold n (.ok (some v) :: looks) [.ok ()] (r.map fun _ => true) := by
  have hok : r.map (fun _ => true) = .ok true ↔ ∃ last, r = .ok last := by
    cases r with
    | ok last => exact ⟨fun _ => ⟨last, rfl⟩, fun _ => rfl⟩
    | error f => simp [Except.map]
  have hremoved : Removed n (.ok (some v) :: looks) [.ok ()] ↔
      v.isDeleted = true ∨ Vanishes n looks := by
    constructor
    · rintro (_ | hdeleted | hvanishes)
      · exact .inl hdeleted
      · exact .inr hvanishes
    · rintro (hdeleted | hvanishes)
      · exact .deleted hdeleted
      · exact .vanished hvanishes
  have hcons : ∀ {u : RemoteVolume} {later : List (Look RemoteVolume)},
      (Except.ok (some v) : Look RemoteVolume) :: looks = .ok (some u) :: later ↔
        v = u ∧ looks = later := by simp
  refine ⟨?_, ?_, ?_, ?_, ?_⟩
  · rw [hok, h.ok_iff, hremoved]
    refine and_congr_right fun _ => ⟨?_, fun hnamed why => hnamed v looks why rfl⟩
    rintro hnamed u later why heq
    obtain ⟨rfl, rfl⟩ := hcons.mp heq
    exact hnamed why
  · rintro u later why heq hname
    obtain ⟨rfl, rfl⟩ := hcons.mp heq
    rw [h.nameless why hname]
    rfl
  · rintro u later last heq - hlingers
    obtain ⟨rfl, rfl⟩ := hcons.mp heq
    rw [h.lingers last hlingers, Nat.zero_add]
    rfl
  · cases r <;> simp [Except.map]
  · rintro f hf
    cases r with
    | ok last => cases hf
    | error f' =>
      obtain rfl : f' = f := Except.error.inj hf
      exact h.told f' rfl

/-- What a removal asks for: to see the volume, in the scope where it was shown last, and to delete
it. -/
def AsksOfVolume (volume : String) (x : Exchange) : Prop :=
  ∃ v, Handle.decode volume = .ok v ∧ (x.request = .deleteVolume v.scope v.localId ∨
    ∃ scope, x.request = .describeVolumes scope [v.localId])

theorem removal_told_of_story {volume : String} {xs : List Exchange} {r : Except Fault Bool}
    (h : Admitted ((Handle.decode volume).mapError .argument)
      (fun v => OpenedByVolume v false (Removal c v)) xs r) :
    (∀ x ∈ xs, AsksOfVolume volume x) ∧
      RemovalTold c.removalWait.attempts.toNat (volumeLooks xs) (deletions xs) r := by
  cases h with
  | refused hargs =>
    refine ⟨fun x hx => absurd hx List.not_mem_nil, ?_⟩
    rw [volumeLooks_nil, deletions_nil]
    refine .of_unseen (by simp) (by simp) (by simp) fun f hf => ?_
    rw [← Except.error.inj hf]
    exact told_of_refused hargs
  | @admitted v _ _ hargs hopened =>
    have hdecode := decode_of_mapError hargs
    obtain ⟨outcome, hopened⟩ := hopened
    have hlook : AsksOfVolume volume ⟨.describeVolumes v.scope [v.localId], outcome⟩ :=
      ⟨v, hdecode, .inr ⟨v.scope, rfl⟩⟩
    have hdelete : ∀ d, AsksOfVolume volume ⟨.deleteVolume v.scope v.localId, d⟩ := fun d =>
      ⟨v, hdecode, .inl rfl⟩
    cases hopened with
    | lost hf =>
      refine ⟨List.forall_mem_singleton.mpr hlook, ?_⟩
      rw [volumeLooks_describe, volumeLooks_nil, deletions_describeVolumes, deletions_nil, hf]
      refine .of_unseen (by simp) (by simp) (by simp) fun f' hf' => ?_
      rw [← Except.error.inj hf']
      exact told_of_lost hf
    | missing hf =>
      refine ⟨List.forall_mem_singleton.mpr hlook, ?_⟩
      rw [volumeLooks_describe, volumeLooks_nil, deletions_describeVolumes, deletions_nil, hf]
      exact .of_unseen (by simp) (by simp) (by simp) (by simp)
    | @found remote _ _ hf hrest =>
      rw [volumeLooks_describe, deletions_describeVolumes, hf]
      cases hrest with
      | refused hfault =>
        refine ⟨List.forall_mem_cons.mpr ⟨hlook, List.forall_mem_singleton.mpr (hdelete _)⟩, ?_⟩
        rw [volumeLooks_delete, volumeLooks_nil, deletions_deleteVolume, deletions_nil]
        exact .of_refused (.inr ⟨hfault, rfl⟩)
      | gone hfault =>
        refine ⟨List.forall_mem_cons.mpr ⟨hlook, List.forall_mem_singleton.mpr (hdelete _)⟩, ?_⟩
        rw [volumeLooks_delete, volumeLooks_nil, deletions_deleteVolume, deletions_nil]
        exact .of_refused (.inl ⟨hfault, rfl⟩)
      | waited hwait =>
        obtain ⟨ending, total, hcourse, rfl⟩ := hwait
        obtain ⟨hwatched, hdeletions⟩ := watched_of_course hcourse
        obtain ⟨answers, rfl, hamong⟩ := among_of_foundVolume hf
        refine ⟨List.forall_mem_cons.mpr ⟨hlook, List.forall_mem_cons.mpr ⟨hdelete _, ?_⟩⟩, ?_⟩
        · intro x hx
          obtain ⟨scope, hscope⟩ := describes_of_course hcourse x hx
          rw [(volumeAmong_some hamong).2] at hscope
          exact ⟨v, hdecode, .inr ⟨scope, hscope⟩⟩
        · rw [volumeLooks_delete, deletions_deleteVolume, hdeletions]
          exact .of_watched hwatched

/-! ## Snapshots -/

/-- What the deletion of a snapshot makes of its looks, and of how the provider takes the
request. -/
structure DeletionTold (looks : List (Look RemoteSnapshot)) (ds : List (Except Fault Unit))
    (r : Except Fault Bool) : Prop where
  /-- It succeeds if the snapshot was there and is not, after a request that was accepted or has
  missed it. -/
  succeeds_iff : r = .ok true ↔ (∃ s, looks = [.ok (some s), .ok none]) ∧
    ∃ d, ds = [d] ∧ ∀ f, d = .error f → f.isNotFound = true
  /-- A snapshot that was not there, or is there still. -/
  negative_iff : r = .ok false ↔
    looks = [.ok none] ∨ ∃ s s', looks = [.ok (some s), .ok (some s')]
  /-- That the snapshot is missing is no failure. -/
  told : ∀ f, r = .error f → f.isNotFound = false

/-- What a deletion asks for: to see the snapshot, and to delete it. -/
def AsksOfSnapshot (snapshot : String) (x : Exchange) : Prop :=
  ∃ s, Handle.decode snapshot = .ok s ∧ (x.request = .deleteSnapshot s.scope s.localId ∨
    x.request = .describeSnapshots s.scope (some [s.localId]) none)

/-- A deletion that fails. -/
theorem DeletionTold.of_error {looks : List (Look RemoteSnapshot)} {ds : List (Except Fault Unit)}
    {f : Fault} (hone : looks ≠ [.ok none]) (htwo : ∀ s found, looks ≠ [.ok (some s), .ok found])
    (hf : f.isNotFound = false) : DeletionTold looks ds (.error f) where
  succeeds_iff := by
    refine ⟨by simp, ?_⟩
    rintro ⟨⟨s, hs⟩, -⟩
    exact absurd hs (htwo s none)
  negative_iff := by
    refine ⟨by simp, ?_⟩
    rintro (hs | ⟨s, s', hs⟩)
    · exact absurd hs hone
    · exact absurd hs (htwo s (some s'))
  told f' hf' := by rwa [← Except.error.inj hf']

/-- A deletion that looks once more. -/
theorem DeletionTold.of_looked {s : RemoteSnapshot} {found : Option RemoteSnapshot}
    {d : Except Fault Unit} (hd : ∀ f, d = .error f → f.isNotFound = true) :
    DeletionTold [.ok (some s), .ok found] [d] (.ok found.isNone) where
  succeeds_iff := by
    cases found with
    | none => exact ⟨fun _ => ⟨⟨s, rfl⟩, d, rfl, hd⟩, fun _ => rfl⟩
    | some s' => simp
  negative_iff := by
    cases found with
    | none => simp
    | some s' => exact ⟨fun _ => .inr ⟨s, s', rfl⟩, fun _ => rfl⟩
  told := by simp

theorem deletion_told_of_story {snapshot : String} {xs : List Exchange} {r : Except Fault Bool}
    (h : Admitted ((Handle.decode snapshot).mapError .argument)
      (fun s => OpenedBySnapshot s false fun _ => Deletion s) xs r) :
    (∀ x ∈ xs, AsksOfSnapshot snapshot x) ∧
      DeletionTold (snapshotLooks xs) (deletions xs) r := by
  cases h with
  | refused hargs =>
    refine ⟨fun x hx => absurd hx List.not_mem_nil, ?_⟩
    rw [snapshotLooks_nil]
    exact .of_error (by simp) (by simp) (told_of_refused hargs)
  | @admitted s _ _ hargs hopened =>
    have hdecode := decode_of_mapError hargs
    obtain ⟨outcome, hopened⟩ := hopened
    have hlook : ∀ outcome, AsksOfSnapshot snapshot
        ⟨.describeSnapshots s.scope (some [s.localId]) none, outcome⟩ := fun _ =>
      ⟨s, hdecode, .inr rfl⟩
    have hdelete : ∀ d, AsksOfSnapshot snapshot ⟨.deleteSnapshot s.scope s.localId, d⟩ := fun d =>
      ⟨s, hdecode, .inl rfl⟩
    cases hopened with
    | lost hf =>
      refine ⟨List.forall_mem_singleton.mpr (hlook _), ?_⟩
      rw [snapshotLooks_describe, snapshotLooks_nil, hf]
      exact .of_error (by simp) (by simp) (told_of_lost hf)
    | missing hf =>
      refine ⟨List.forall_mem_singleton.mpr (hlook _), ?_⟩
      rw [snapshotLooks_describe, snapshotLooks_nil, hf]
      exact ⟨by simp, by simp, by simp⟩
    | found hf hrest =>
      rw [snapshotLooks_describe, deletions_describeSnapshots, hf]
      cases hrest with
      | refused hfault =>
        refine ⟨List.forall_mem_cons.mpr ⟨hlook _, List.forall_mem_singleton.mpr (hdelete _)⟩, ?_⟩
        rw [snapshotLooks_delete, snapshotLooks_nil]
        exact .of_error (by simp) (by simp) hfault
      | looked hdeleted last =>
        refine ⟨List.forall_mem_cons.mpr ⟨hlook _,
          List.forall_mem_cons.mpr ⟨hdelete _, List.forall_mem_singleton.mpr (hlook _)⟩⟩, ?_⟩
        rw [snapshotLooks_delete, snapshotLooks_describe, snapshotLooks_nil,
          deletions_deleteSnapshot, deletions_describeSnapshots, deletions_nil]
        cases hfound : foundSnapshot s.localId last with
        | error f => exact .of_error (by simp) (by simp) (told_of_lost hfound)
        | ok found => exact .of_looked hdeleted

/-! ## Both -/

/-- **What a deletion answers is what its looks tell.** This is so over every gateway, within
every budget, and wherever the wait is cancelled. -/
theorem deletions_told (c : Lifecycle γ) (w : World Event γ) :
    (∀ volume, ∃ own, w.Wrote own ((c.removeVolume volume).run w).2 ∧
      (∀ x ∈ Event.exchanges own, AsksOfVolume volume x) ∧
      RemovalTold (c.budgets.budgetFor "remove_volume").maxAttempts
        (volumeLooks (Event.exchanges own)) (deletions (Event.exchanges own))
        ((c.removeVolume volume).run w).1) ∧
    (∀ snapshot, ∃ own, w.Wrote own ((c.deleteSnapshot snapshot).run w).2 ∧
      (∀ x ∈ Event.exchanges own, AsksOfSnapshot snapshot x) ∧
      DeletionTold (snapshotLooks (Event.exchanges own)) (deletions (Event.exchanges own))
        ((c.deleteSnapshot snapshot).run w).1) := by
  refine ⟨fun volume => ?_, fun snapshot => ?_⟩
  · obtain ⟨own, hwrote, -, hstory⟩ := (tells_removeVolume c volume).wrote w
    exact ⟨own, hwrote, removal_told_of_story hstory⟩
  · obtain ⟨own, hwrote, -, hstory⟩ := (tells_deleteSnapshot c snapshot).wrote w
    exact ⟨own, hwrote, deletion_told_of_story hstory⟩

/-- The volume of a provider whose local ids hold slashes. -/
def slashed : RemoteVolume :=
  ⟨"us-east-1", "a/b", 8.0, "us-east-1a", .available, [], none, none⟩

/-- The flows over that provider, which has the volume until it is asked to delete it. -/
def forgetful : Lifecycle Bool where
  gateway := {
    pauses := 0
    call r _ present := match r with
      | .describeVolumes _ _ =>
        .done ⟨present, [], false⟩ (.ok [if present then some slashed else none])
      | .deleteVolume _ _ => .done ⟨false, [], false⟩ (.ok ())
      | _ => .done ⟨present, [], false⟩ (.error .aborted) }
  budgets := { maxAttempts := 1, delay := 0.0 }

theorem found_of_shape {look : Look RemoteVolume} {shown : Bool}
    (h : look.toOption.map Option.isSome = some shown) :
    ∃ found, look = .ok found ∧ found.isSome = shown := by
  cases look with
  | error f => cases h
  | ok found => exact ⟨found, rfl, Option.some.inj h⟩

/-- A first look that shows the volume, a request that is accepted, and a look that does not show
it. -/
theorem removed_of_shapes {looks : List (Look RemoteVolume)} {ds : List (Except Fault Unit)}
    (hlooks : looks.map (fun look => look.toOption.map Option.isSome) = [some true, some false])
    (hds : ds.map Except.toOption = [some ()]) : Removed 1 looks ds := by
  obtain ⟨first, later, rfl, hfirst, hlater⟩ := List.map_eq_cons_iff.mp hlooks
  obtain ⟨last, rfl, hlast⟩ := List.map_eq_singleton_iff.mp hlater
  obtain ⟨d, rfl, hd⟩ := List.map_eq_singleton_iff.mp hds
  obtain rfl : d = .ok () := eq_ok_of_toOption hd
  obtain ⟨shown, rfl, hshown⟩ := found_of_shape hfirst
  obtain ⟨missing, rfl, hmissing⟩ := found_of_shape hlast
  obtain ⟨v, rfl⟩ := Option.isSome_iff_exists.mp hshown
  obtain rfl : missing = none := by simpa using hmissing
  exact .vanished (.now .missing)

/-- That volume vanishes at the first look after the request, and still its removal fails. -/
theorem slashed_removal_fails :
    ∃ own, ({ remote := true } : World Event Bool).Wrote own
        ((forgetful.removeVolume "us-east-1/a/b").run { remote := true }).2 ∧
      Removed 1 (volumeLooks (Event.exchanges own)) (deletions (Event.exchanges own)) ∧
      ((forgetful.removeVolume "us-east-1/a/b").run { remote := true }).1 ≠ .ok true := by
  obtain ⟨own, hwrote, -⟩ :=
    (tells_removeVolume forgetful "us-east-1/a/b").wrote { remote := true }
  have hlooks : (volumeLooks (Event.exchanges ((forgetful.removeVolume "us-east-1/a/b").run
      { remote := true }).2.journal)).map (fun look => look.toOption.map Option.isSome) =
      [some true, some false] := by decide +kernel
  have hds : (deletions (Event.exchanges ((forgetful.removeVolume "us-east-1/a/b").run
      { remote := true }).2.journal)).map Except.toOption = [some ()] := by decide +kernel
  have hfails :
      ((forgetful.removeVolume "us-east-1/a/b").run { remote := true }).1.isOk = false := by
    decide +kernel
  rw [hwrote.journal_eq rfl, List.nil_append] at hlooks hds
  refine ⟨own, hwrote, removed_of_shapes hlooks hds, fun hok => ?_⟩
  rw [hok] at hfails
  cases hfails

end Lifecycle

end BlockStorage
