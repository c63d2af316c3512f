import BlockStorage.Proofs.Lifecycle.Refusal

/-!
# Refusing before anything is asked

The arguments that a flow checks first decide alone whether it refuses before its
first request: once they have passed, something is asked, whatever comes back.

* `Operation.Inadmissible`: an argument does not pass the first checks.
* `Lifecycle.RefusesUnasked`: a flow refuses an argument, and nothing was asked.
* `Lifecycle.refusesUnasked_iff`: the two are the same, whatever the gateway.
-/

namespace BlockStorage

/-- An argument was refused. -/
def Refused {α : Type} (r : Except Fault α) : Prop := ∃ why, r = .error (.argument why)

open Lifecycle (creationArguments attachArguments detachArguments) in
/-- An argument does not pass the checks at the beginning of the flow. -/
def Operation.Inadmissible : Operation → Prop
  | createVolume _ options => Refused (creationArguments options)
  | attachVolume volume node options => Refused (attachArguments volume node options)
  | detachVolume volume options => Refused (detachArguments volume options)
  | removeVolume handle | getVolume handle | listVolumesOf handle | createSnapshot handle _
  | deleteSnapshot handle | getSnapshot handle | listSnapshotsOf handle =>
    Refused ((Handle.decode handle).mapError .argument)
  | listVolumesIn location | listSnapshotsIn location => location.isEmpty = true
  | listVolumes | listSnapshots => False

namespace Lifecycle

variable {γ α δ : Type} {c : Lifecycle γ}

/-- A flow refuses an argument, and nothing was asked till then. -/
def RefusesUnasked (flow : Flow γ α) (w : World Event γ) : Prop :=
  Refused (flow.run w).1 ∧ Event.requests (flow.run w).2.journal = Event.requests w.journal

/-- A flow asks something, whatever comes back. -/
def Asks (flow : Flow γ α) : Prop :=
  ∀ w : World Event γ, ∃ own, w.Wrote own (flow.run w).2 ∧ Event.requests own ≠ []

theorem Asks.not_refusesUnasked {flow : Flow γ α} (h : Asks flow) (w : World Event γ) :
    ¬ RefusesUnasked flow w := by
  rintro ⟨-, hsame⟩
  obtain ⟨own, ⟨news, hwoven, hjournal⟩, hasked⟩ := h w
  have hnews : Event.requests news = [] := by
    rw [hjournal, Event.requests_append] at hsame
    simpa using hsame
  have hsub : (Event.requests own).Sublist (Event.requests news) := hwoven.sublist.filterMap _
  rw [hnews] at hsub
  exact hasked (List.sublist_nil.mp hsub)

/-! ## Flows about a handle -/

/-- A flow whose arguments are checked first, and which asks something once they have passed. -/
theorem refusesUnasked_of_admitted {flow : Flow γ α} {arguments : Except Fault δ}
    {Rest : δ → List Exchange → Except Fault α → Prop}
    (htells : c.Tells flow (Admitted arguments Rest))
    (hrun : ∀ f, arguments = .error f → ∀ w, flow.run w = (.error f, w))
    (hrest : ∀ d xs r, Rest d xs r → xs ≠ []) (w : World Event γ) :
    RefusesUnasked flow w ↔ Refused arguments := by
  cases hargs : arguments with
  | error f =>
    rw [RefusesUnasked, hrun f hargs w]
    constructor
    · rintro ⟨⟨why, hwhy⟩, -⟩
      exact ⟨why, by rw [Except.error.inj hwhy]⟩
    · rintro ⟨why, hwhy⟩
      exact ⟨⟨why, by rw [Except.error.inj hwhy]⟩, rfl⟩
  | ok d =>
    have hasks : Asks flow := by
      intro v
      obtain ⟨own, hgrows, xs, hxs, -, hstory⟩ := htells v
      refine ⟨own, hgrows.wrote, ?_⟩
      have hrequests : Event.requests own = xs.map (·.request) := by
        rw [← Event.requests_filter, hxs, Event.requests_flatMap]
      rw [hrequests]
      generalize (flow.run v).1 = r at hstory
      cases hstory with
      | refused hrefused =>
        rw [hargs] at hrefused
        cases hrefused
      | admitted _ hr =>
        intro hnil
        exact hrest _ _ _ hr (List.map_eq_nil_iff.mp hnil)
    constructor
    · intro hrefuses
      exact absurd hrefuses (hasks.not_refusesUnasked w)
    · rintro ⟨why, hwhy⟩
      cases hwhy

theorem Opened.ne_nil {ρ : Type} {look : Exchange} {found : Except Fault (Option ρ)} {negative : α}
    {Rest : ρ → List Exchange → Except Fault α → Prop} {xs : List Exchange} {r : Except Fault α}
    (h : Opened look found negative Rest xs r) : xs ≠ [] := by
  cases h <;> exact List.cons_ne_nil _ _

theorem OpenedByVolume.ne_nil {h : Handle} {negative : α}
    {Rest : RemoteVolume → List Exchange → Except Fault α → Prop} {xs : List Exchange}
    {r : Except Fault α} (hopened : OpenedByVolume h negative Rest xs r) : xs ≠ [] := by
  obtain ⟨_, hopened⟩ := hopened
  exact hopened.ne_nil

theorem OpenedBySnapshot.ne_nil {h : Handle} {negative : α}
    {Rest : RemoteSnapshot → List Exchange → Except Fault α → Prop} {xs : List Exchange}
    {r : Except Fault α} (hopened : OpenedBySnapshot h negative Rest xs r) : xs ≠ [] := by
  obtain ⟨_, hopened⟩ := hopened
  exact hopened.ne_nil

theorem Creation.ne_nil {o : ZonedVolumeOptions} {scope : String} {source : Option Handle}
    {xs : List Exchange} {r : Except Fault (Option Volume)} (h : Creation c o scope source xs r) :
    xs ≠ [] := by
  cases h with
  | fresh _ hordered => exact List.ne_nil_of_mem hordered.order_mem
  | restored hopened => exact hopened.ne_nil

theorem Attaching.ne_nil {device : String} {v n : Handle} {xs : List Exchange}
    {r : Except Fault Bool} (h : Attaching c device v n xs r) : xs ≠ [] := by
  cases h <;> exact List.cons_ne_nil _ _

theorem Listing.ne_nil {β : Type} [BEq β] {r : Request}
    {convert : r.Answer → Except BadArgument (List β)} {xs : List Exchange}
    {result : Except Fault (List β)} (h : Listing r convert xs result) : xs ≠ [] := by
  obtain ⟨_, rfl, -⟩ := h
  exact List.cons_ne_nil _ _

/-! ## Listing by location -/

theorem refusesUnasked_listIn {α : Type} [BEq α] {r : Request}
    {convert : r.Answer → Except BadArgument (List α)} {location : String} (w : World Event γ) :
    RefusesUnasked (do return distinct (← listIn (c.legIn r convert) location)) w ↔
      location.isEmpty = true := by
  cases hempty : location.isEmpty with
  | true =>
    rw [RefusesUnasked, run_map, run_listIn_empty hempty]
    exact iff_of_true ⟨⟨_, rfl⟩, rfl⟩ rfl
  | false =>
    refine iff_of_false (Asks.not_refusesUnasked (fun v => ?_) w) Bool.false_ne_true
    obtain ⟨own, hruns, hgrows⟩ := (c.legIn r convert location v.now v.remote).finish_grows v
    refine ⟨own, ?_, ?_⟩
    · rw [run_map]
      exact hgrows.wrote
    · rcases legIn_runs hruns with ⟨htrue, -⟩ | ⟨-, hasked, -⟩
      · rw [hempty] at htrue
        cases htrue
      · exact List.ne_nil_of_mem (List.mem_filterMap.mpr ⟨_, hasked, rfl⟩)

/-- A flow that begins with a call. -/
theorem asks_bind {step : Flow γ δ} {next : δ → Flow γ α} (h : c.Tells step fun xs _ => xs ≠ [])
    (hnext : ∀ d (w : World Event γ), ∃ own, w.Wrote own ((next d).run w).2) :
    Asks (step >>= next) := by
  intro w
  obtain ⟨own, hgrows, xs, hxs, -, hne⟩ := h w
  have hasked : Event.requests own ≠ [] := by
    rw [← Event.requests_filter, hxs, Event.requests_flatMap]
    intro hnil
    exact hne (List.map_eq_nil_iff.mp hnil)
  have hrun : (step >>= next).run w =
      (ExceptT.bindCont next (step.run w).1 : StateM (World Event γ) _) (step.run w).2 := rfl
  rw [hrun]
  generalize step.run w = result at hgrows ⊢
  obtain ⟨r, w₁⟩ := result
  cases r with
  | error f => exact ⟨own, hgrows.wrote, hasked⟩
  | ok d =>
    obtain ⟨own', hwrote⟩ := hnext d w₁
    refine ⟨own ++ own', hgrows.wrote_append hwrote, fun hnil => hasked ?_⟩
    rw [Event.requests_append] at hnil
    exact (List.append_eq_nil_iff.mp hnil).1

/-- The locations are asked for before any of them is listed. -/
theorem asks_listAll {pauses : Nat} {α : Type} [BEq α]
    (call : String → Float → γ → Leg Event γ (Except Fault (List α)) pauses) :
    Asks (c.listAll call) := by
  refine asks_bind (.ask fun _ => List.cons_ne_nil _ _) fun scopes w => ?_
  have hcalls : ∀ start ∈ scopes.map fun s => call s.plain, ∀ now remote e,
      (start now remote).Reports e → True := fun _ _ _ _ _ _ => trivial
  obtain ⟨own, hwrote, -, -⟩ := World.sideBySide_wrote _ w hcalls
  refine ⟨own, ?_⟩
  rw [run_map]
  exact hwrote

/-! ## All operations -/

/-- **What a flow checks first decides alone whether it refuses unasked**, whatever the gateway. -/
theorem refusesUnasked_iff (c : Lifecycle γ) (op : Operation) (w : World Event γ) :
    RefusesUnasked (c.perform op) w ↔ op.Inadmissible := by
  cases op with
  | createVolume name options =>
    exact refusesUnasked_of_admitted (tells_createVolume c name options)
      (fun _ h w => run_createVolume_refused h w) (fun _ _ _ h => h.ne_nil) w
  | attachVolume volume node options =>
    exact refusesUnasked_of_admitted (tells_attachVolume c volume node options)
      (fun _ h w => run_attachVolume_refused h w) (fun _ _ _ h => h.ne_nil) w
  | detachVolume volume options =>
    exact refusesUnasked_of_admitted (tells_detachVolume c volume options)
      (fun _ h w => run_detachVolume_refused h w) (fun _ _ _ h => h.ne_nil) w
  | removeVolume volume =>
    exact refusesUnasked_of_admitted (tells_removeVolume c volume)
      (fun _ h w => run_decode_refused h _ w) (fun _ _ _ h => h.ne_nil) w
  | getVolume volume =>
    exact refusesUnasked_of_admitted (tells_getVolume c volume)
      (fun _ h w => run_decode_refused h _ w) (fun _ _ _ h => h.ne_nil) w
  | listVolumesOf node =>
    exact refusesUnasked_of_admitted (tells_listVolumesOf c node)
      (fun _ h w => run_decode_refused h _ w) (fun _ _ _ h => h.ne_nil) w
  | createSnapshot volume options =>
    exact refusesUnasked_of_admitted (tells_createSnapshot c volume options)
      (fun _ h w => run_decode_refused h _ w) (fun _ _ _ h => h.ne_nil) w
  | deleteSnapshot snapshot =>
    exact refusesUnasked_of_admitted (tells_deleteSnapshot c snapshot)
      (fun _ h w => run_decode_refused h _ w) (fun _ _ _ h => h.ne_nil) w
  | getSnapshot snapshot =>
    exact refusesUnasked_of_admitted (tells_getSnapshot c snapshot)
      (fun _ h w => run_decode_refused h _ w) (fun _ _ _ h => h.ne_nil) w
  | listSnapshotsOf volume =>
    exact refusesUnasked_of_admitted (tells_listSnapshotsOf c volume)
      (fun _ h w => run_decode_refused h _ w) (fun _ _ _ h => h.ne_nil) w
  | listVolumesIn location | listSnapshotsIn location => exact refusesUnasked_listIn w
  | listVolumes | listSnapshots => exact iff_of_false ((asks_listAll _).not_refusesUnasked w) id

end Lifecycle

end BlockStorage
