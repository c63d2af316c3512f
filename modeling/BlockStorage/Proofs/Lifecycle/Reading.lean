import BlockStorage.Proofs.Lifecycle.Flows

/-!
# How the reading flows go

A reading flow asks once or twice, and what it answers is made of what came back.

* `Lifecycle.tells_getVolume`, `Lifecycle.tells_listSnapshotsOf`, …: the flows about
  one handle, by their exchanges and their answer.
* `Lifecycle.legIn_runs`: the listing of one location, as a call.
* `Lifecycle.listAll_error`: the listing of all locations fails as one of its calls
  does.
-/

namespace BlockStorage.Lifecycle

variable {γ α β : Type} {c : Lifecycle γ}

/-- What is made of an outcome whose answer is converted. -/
def converted (convert : α → Except BadArgument β) : Except Fault α → Except Fault β
  | .ok a => (convert a).mapError .argument
  | .error f => .error f

/-! ## About one handle -/

theorem tells_getVolume (c : Lifecycle γ) (volume : String) :
    c.Tells (c.getVolume volume) (Admitted ((Handle.decode volume).mapError .argument) fun v =>
      OpenedByVolume v none fun remote xs r =>
        xs = [] ∧ r = (remote.toVolume.map some).mapError .argument) := by
  refine .admitted fun v _ => .openedByVolume (.pure none ⟨rfl, rfl⟩) fun remote => ?_
  refine .bind (.check _ ?_)
  cases remote.toVolume with
  | error why => exact ⟨rfl, rfl⟩
  | ok volume => exact .pure _ ⟨rfl, rfl⟩

theorem tells_getSnapshot (c : Lifecycle γ) (snapshot : String) :
    c.Tells (c.getSnapshot snapshot) (Admitted ((Handle.decode snapshot).mapError .argument)
      fun s => OpenedBySnapshot s none fun remote xs r =>
        xs = [] ∧ r = (remote.toSnapshot.map some).mapError .argument) := by
  refine .admitted fun s _ => .openedBySnapshot (.pure none ⟨rfl, rfl⟩) fun remote => ?_
  refine .bind (.check _ ?_)
  cases remote.toSnapshot with
  | error why => exact ⟨rfl, rfl⟩
  | ok snapshot => exact .pure _ ⟨rfl, rfl⟩

/-- A listing by one call, without its repetitions. -/
def Listing [BEq β] (r : Request) (convert : r.Answer → Except BadArgument (List β))
    (xs : List Exchange) (result : Except Fault (List β)) : Prop :=
  ∃ outcome, xs = [⟨r, outcome⟩] ∧ result = (converted convert outcome).map distinct

theorem tells_listing [BEq β] {r : Request} {convert : r.Answer → Except BadArgument (List β)} :
    c.Tells (do
      let answers ← c.ask r
      return distinct (← Flow.check (convert answers))) (Listing r convert) := by
  refine .bind (.ask fun outcome => ?_)
  have hlisting : Listing r convert _ _ := ⟨outcome, rfl, rfl⟩
  cases outcome with
  | error f => exact hlisting
  | ok answers =>
    refine .bind (.check _ ?_)
    rw [converted] at hlisting
    cases hlist : convert answers with
    | error why =>
      rw [hlist] at hlisting
      exact hlisting
    | ok list =>
      rw [hlist] at hlisting
      exact .pure _ hlisting

theorem tells_listVolumesOf (c : Lifecycle γ) (node : String) :
    c.Tells (c.listVolumesOf node) (Admitted ((Handle.decode node).mapError .argument) fun n =>
      Listing (.describeVolumes n.scope []) (heldVolumes n.localId)) :=
  .admitted fun _ _ => tells_listing

theorem tells_listSnapshotsOf (c : Lifecycle γ) (volume : String) :
    c.Tells (c.listSnapshotsOf volume) (Admitted ((Handle.decode volume).mapError .argument)
      fun v => OpenedByVolume v [] fun _ =>
        Listing (.describeSnapshots v.scope none (some v.localId)) snapshotsOf) :=
  .admitted fun _ _ => .openedByVolume (.pure [] ⟨rfl, rfl⟩) fun _ => tells_listing

/-! ## By location -/

/-- A call of one location refuses an empty one, or else asks once and converts the answer. -/
theorem legIn_runs {r : Request} {convert : r.Answer → Except BadArgument β} {location : String}
    {now : Float} {remote : γ} {trace : List Event} {result : Except Fault β}
    (h : (c.legIn r convert location now remote).Runs trace result) :
    (location.isEmpty = true ∧ result = .error (.argument .emptyLocation)) ∨
      (location.isEmpty = false ∧ Event.asked r ∈ trace ∧
        ∃ outcome, c.Answers ⟨r, outcome⟩ ∧ result = converted convert outcome) := by
  rw [legIn] at h
  split at h
  · next hempty => exact Or.inl ⟨hempty, h.of_done.2⟩
  · next hgiven =>
    obtain ⟨outcome, hruns, rfl⟩ := h.of_map
    obtain ⟨_, hreported, rfl⟩ := hruns.of_after
    obtain ⟨_, hwired, rfl⟩ := hreported.of_reporting
    obtain ⟨wire, hcall, rfl⟩ := hwired.of_relabel
    refine Or.inr ⟨by simpa using hgiven, List.mem_cons_self, outcome, ⟨_, _, _, hcall⟩, ?_⟩
    cases outcome with
    | error f => rfl
    | ok answer =>
      rw [converted]
      dsimp only
      cases convert answer <;> rfl

/-- A call ends as the gateway may answer it. -/
theorem answers_ask (c : Lifecycle γ) (r : Request) (w : World Event γ) :
    c.Answers ⟨r, ((c.ask r).run w).1⟩ := by
  obtain ⟨own, -, xs, -, hanswers, hxs⟩ := Tells.ask (c := c) (r := r)
    (Q := fun xs outcome => xs = [⟨r, outcome⟩]) (fun _ => rfl) w
  exact hanswers _ (by rw [hxs]; exact List.mem_cons_self)

/-- A flow of two steps fails as the first one does, or else as the second one does in the world
that the first one leaves. -/
theorem error_of_bind {step : Flow γ α} {next : α → Flow γ β} {w : World Event γ} {f : Fault}
    (h : ((step >>= next).run w).1 = .error f) :
    (step.run w).1 = .error f ∨
      ∃ a, (step.run w).1 = .ok a ∧ ((next a).run (step.run w).2).1 = .error f := by
  have hrun : (step >>= next).run w =
      (ExceptT.bindCont next (step.run w).1 : StateM (World Event γ) _) (step.run w).2 := rfl
  rw [hrun] at h
  cases hr : (step.run w).1 with
  | error f' =>
    rw [hr] at h
    obtain rfl : f' = f := Except.error.inj h
    exact Or.inl rfl
  | ok a =>
    rw [hr] at h
    exact Or.inr ⟨a, rfl, h⟩

/-- Listing all locations fails because the locations cannot be listed, or as one of the calls may
do by itself. -/
theorem listAll_error {pauses : Nat} [BEq α]
    {call : String → Float → γ → Leg Event γ (Except Fault (List α)) pauses} {w : World Event γ}
    {f : Fault} (h : ((c.listAll call).run w).1 = .error f) :
    c.Answers ⟨.listScopes, .error f⟩ ∨ ∃ scopes : List Datum, c.Answers ⟨.listScopes, .ok scopes⟩ ∧
      ∃ s ∈ scopes, ∃ now remote trace, (call s.plain now remote).Runs trace (.error f) := by
  have hasked := answers_ask c .listScopes w
  rcases error_of_bind h with hr | ⟨scopes, hr, h⟩
  · rw [hr] at hasked
    exact Or.inl hasked
  · rw [hr] at hasked
    refine Or.inr ⟨scopes, hasked, ?_⟩
    rcases error_of_bind h with hr | ⟨lists, -, h⟩
    · obtain ⟨start, hstart, hruns⟩ := World.sideBySide_error hr
      obtain ⟨s, hs, rfl⟩ := List.mem_map.mp hstart
      exact ⟨s, hs, hruns⟩
    · cases h

end BlockStorage.Lifecycle
