import BlockStorage.Proofs.Lifecycle.Faithful

/-!
# Refused arguments

An argument is refused before anything is sent: that is what the checks at the
beginning of a flow are for. Handles are also made later, though, of the records that
come back, and those echo the scope of their request. So an operation keeps that
promise exactly if the scopes that it asks about can stand in a handle.

* `Operation.Placed`: what an operation has to make sure of.
* `Lifecycle.silent_of_placed`: then a refusal leaves the world as it was.
* `Lifecycle.echo`: the flows over a provider with one volume and one snapshot
  everywhere.
* `Lifecycle.placed_of_silent`: over that provider nothing less will do.
* `Lifecycle.refusal_silent_iff`: both ways, over every faithful gateway.
-/

namespace BlockStorage

open Handle (IsPart)

/-- What an operation has to make sure of: that the scopes that it asks about can stand in a handle,
be they derived from a zone, given, or listed. -/
def Operation.Placed (Scopes : String → Prop) : Operation → Prop
  | createVolume _ (.zonedVolume o) =>
    ∀ scope, Lifecycle.placement o = .ok (scope, none) → Handle.separator ∉ scope.toList
  | listVolumesIn location | listSnapshotsIn location => Handle.separator ∉ location.toList
  | listVolumes | listSnapshots => ∀ scope, Scopes scope → IsPart scope
  | _ => True

namespace Lifecycle

variable {γ : Type} {c : Lifecycle γ} {Scopes : String → Prop}

/-! ## Arguments -/

theorem decode_of_mapError {text : String} {h : Handle}
    (hargs : (Handle.decode text).mapError Fault.argument = .ok h) :
    Handle.decode text = .ok h := by
  cases hd : Handle.decode text with
  | error why =>
    rw [hd] at hargs
    cases hargs
  | ok h' =>
    rw [hd] at hargs
    cases hargs
    rfl

/-- A location only confines a placement. -/
theorem placement_anywhere {o : ZonedVolumeOptions} {p : String × Option Handle}
    (h : placement o = .ok p) : placement { o with location := none } = .ok p := by
  rw [placement] at h ⊢
  cases hregion : Handle.regionOfZone o.zone with
  | error why =>
    rw [hregion] at h
    cases h
  | ok region =>
    rw [hregion] at h
    cases hlocation : o.location with
    | none =>
      rw [hlocation] at h
      exact h
    | some location =>
      rw [hlocation] at h
      by_cases hl : location = region
      · simp only [bind, Except.bind, hl, ne_eq, not_true_eq_false, if_false] at h ⊢
        exact h
      · simp only [bind, Except.bind, hl, ne_eq, not_false_eq_true, if_true] at h
        cases h

/-- A volume is made in the scope of its zone; a volume that is restored, also in that of its
source. -/
theorem placement_scope {o : ZonedVolumeOptions} {scope : String} {source : Option Handle}
    (h : placement o = .ok (scope, source)) :
    Handle.regionOfZone o.zone = .ok scope ∧
      ∀ s, source = some s → ∃ handle, Handle.decode handle = .ok s ∧ s.scope = scope := by
  have hanywhere := placement_anywhere h
  rw [placement] at hanywhere
  dsimp only at hanywhere
  cases hregion : Handle.regionOfZone o.zone with
  | error why =>
    rw [hregion] at hanywhere
    cases hanywhere
  | ok region =>
    rw [hregion] at hanywhere
    cases hsnapshot : o.snapshotId with
    | none =>
      rw [hsnapshot] at hanywhere
      simp only [bind, Except.bind] at hanywhere
      split at hanywhere
      · cases hanywhere
      · cases hanywhere
        exact ⟨rfl, nofun⟩
    | some handle =>
      rw [hsnapshot] at hanywhere
      cases hs : Handle.decode handle with
      | error why =>
        simp only [bind, Except.bind, hs] at hanywhere
        cases hanywhere
      | ok s =>
        simp only [bind, Except.bind, hs] at hanywhere
        split at hanywhere
        · cases hanywhere
        · next hscope =>
          cases hanywhere
          refine ⟨rfl, fun t ht => ?_⟩
          obtain rfl := Option.some.inj ht
          exact ⟨handle, hs, by simpa using hscope⟩

/-- The scope of a placement can stand in a handle, if there is a source, or no separator. -/
theorem isPart_of_placement {o : ZonedVolumeOptions} {scope : String} {source : Option Handle}
    (h : placement o = .ok (scope, source))
    (hfree : source = none → Handle.separator ∉ scope.toList) : IsPart scope := by
  obtain ⟨hregion, hsource⟩ := placement_scope h
  cases source with
  | none => exact ⟨Handle.regionOfZone_given hregion, hfree rfl⟩
  | some s =>
    obtain ⟨handle, hdecode, rfl⟩ := hsource s rfl
    exact Handle.isPart_scope hdecode

theorem creationArguments_eq_ok {options : Options} {o : ZonedVolumeOptions} {scope : String}
    {source : Option Handle} (h : creationArguments options = .ok (o, scope, source)) :
    options = .zonedVolume o ∧ placement o = .ok (scope, source) := by
  cases options with
  | zonedVolume o' =>
    rw [creationArguments] at h
    cases hp : placement o' with
    | error why =>
      rw [hp] at h
      cases h
    | ok p =>
      rw [hp] at h
      cases h
      exact ⟨rfl, hp⟩
  | _ => cases h

/-- A refused argument leaves the world as it was. -/
theorem run_check_error {α β : Type} {e : Except BadArgument α} {why : BadArgument}
    (he : e = .error why) (next : α → Flow γ β) (w : World Event γ) :
    (Flow.check e >>= next).run w = (.error (.argument why), w) := by
  subst he
  rfl

theorem run_createVolume_refused {name : Datum} {options : Options} {f : Fault}
    (h : creationArguments options = .error f) (w : World Event γ) :
    (c.createVolume name options).run w = (.error f, w) := by
  cases options with
  | zonedVolume o =>
    rw [creationArguments] at h
    cases hp : placement o with
    | error why =>
      rw [hp] at h
      obtain rfl : Fault.argument why = f := Except.error.inj h
      exact run_check_error hp _ w
    | ok p =>
      rw [hp] at h
      cases h
  | _ =>
    obtain rfl := Except.error.inj h
    rfl

theorem run_attachVolume_refused {volume node : String} {options : Options} {f : Fault}
    (h : attachArguments volume node options = .error f) (w : World Event γ) :
    (c.attachVolume volume node options).run w = (.error f, w) := by
  rw [attachVolume]
  cases hd : options.requiredDevice with
  | error g =>
    rw [attachArguments, hd] at h
    obtain rfl := Except.error.inj h
    rfl
  | ok device =>
    cases hs : Handle.sameScope volume node with
    | error why =>
      rw [attachArguments, hd, hs] at h
      obtain rfl := Except.error.inj h
      rfl
    | ok p =>
      rw [attachArguments, hd, hs] at h
      cases h

theorem run_detachVolume_refused {volume : String} {options : Options} {f : Fault}
    (h : detachArguments volume options = .error f) (w : World Event γ) :
    (c.detachVolume volume options).run w = (.error f, w) := by
  rw [detachVolume]
  cases ht : detachTarget options with
  | error why =>
    rw [detachArguments_of_target ht] at h
    obtain rfl := Except.error.inj h
    rfl
  | ok target =>
    cases hs : detachScope volume target.nodeId with
    | error why =>
      rw [detachArguments_eq_error ht hs] at h
      obtain rfl := Except.error.inj h
      change (Flow.check (detachScope volume target.nodeId) >>= _).run w = _
      exact run_check_error hs _ w
    | ok p =>
      rw [detachArguments_eq_ok ht hs] at h
      cases h

theorem run_decode_refused {α : Type} {text : String} {f : Fault}
    (h : (Handle.decode text).mapError Fault.argument = .error f) (next : Handle → Flow γ α)
    (w : World Event γ) :
    (Flow.check (Handle.decode text) >>= next).run w = (.error f, w) := by
  cases hd : Handle.decode text with
  | error why =>
    rw [hd] at h
    obtain rfl : Fault.argument why = f := Except.error.inj h
    rfl
  | ok v =>
    rw [hd] at h
    cases h

/-- Where a flow refuses nothing but its arguments, a refusal leaves the world as it was. -/
theorem silent_of_admitted {δ α : Type} {flow : Flow γ α} {arguments : Except Fault δ}
    {Rest : δ → List Exchange → Except Fault α → Prop}
    (htells : c.Tells flow (Admitted arguments Rest))
    (hrun : ∀ f, arguments = .error f → ∀ w, flow.run w = (.error f, w))
    (hc : ∀ x, c.Answers x → x.Faithful Scopes)
    (hrest : ∀ d xs r, arguments = .ok d → (∀ x ∈ xs, x.Faithful Scopes) → Rest d xs r →
      Unrefused r) {w : World Event γ} {why : BadArgument}
    (hfail : (flow.run w).1 = .error (.argument why)) : (flow.run w).2 = w := by
  obtain ⟨own, -, hanswers, hstory⟩ := htells.wrote w
  generalize Event.exchanges own = xs at hanswers hstory
  rw [hfail] at hstory
  generalize hr : (Except.error (.argument why) : Except Fault α) = r at hstory
  cases hstory with
  | refused hargs => rw [hrun _ hargs w]
  | admitted hargs hd =>
    have hunrefused := hrest _ _ _ hargs (fun x hx => hc x (hanswers x hx)) hd
    exact absurd hr.symm (hunrefused.ne why)

/-! ## Listing by location -/

section Listing

variable {β : Type} {r : Request} {convert : r.Answer → Except BadArgument β} {location : String}
  (hc : ∀ x, c.Answers x → x.Faithful Scopes)
  (hconvert : IsPart location → ∀ answer, r.Proper Scopes answer → ∃ b, convert answer = .ok b)

include hc hconvert

/-- A call of one location refuses nothing but the location. -/
theorem legIn_unrefused (hlocation : Handle.separator ∉ location.toList) {now : Float} {remote : γ}
    {trace : List Event} {result : Except Fault β}
    (h : (c.legIn r convert location now remote).Runs trace result) :
    location.isEmpty = true ∨ Unrefused result := by
  rcases legIn_runs h with ⟨hempty, -⟩ | ⟨hgiven, -, outcome, hanswer, rfl⟩
  · exact Or.inl hempty
  · have houtcome := hc _ hanswer
    refine Or.inr (converted_unrefused ?_ ?_)
    · rintro f rfl
      exact houtcome
    · rintro answer rfl
      exact hconvert ⟨hgiven, hlocation⟩ answer houtcome

end Listing

/-- What is made of an answer afterwards neither hides a failure nor changes the world. -/
theorem run_map {α β : Type} (f : α → β) (flow : Flow γ α) (w : World Event γ) :
    (do return f (← flow) : Flow γ β).run w = ((flow.run w).1.map f, (flow.run w).2) := by
  have hrun : (do return f (← flow) : Flow γ β).run w =
      (ExceptT.bindCont (fun a => pure (f a)) (flow.run w).1 : StateM (World Event γ) _)
        (flow.run w).2 := rfl
  rw [hrun]
  cases (flow.run w).1 <;> rfl

/-- An empty location is refused at once. -/
theorem run_listIn_empty {α : Type} {r : Request}
    {convert : r.Answer → Except BadArgument (List α)} {location : String}
    (hempty : location.isEmpty = true) (w : World Event γ) :
    (listIn (c.legIn r convert) location).run w = (.error (.argument .emptyLocation), w) := by
  have hleg : c.legIn r convert location w.now w.remote =
      .done ⟨w.remote, [], false⟩ (.error (.argument .emptyLocation)) := by
    rw [legIn, if_pos hempty]
  have hrun : (listIn (c.legIn r convert) location).run w =
      (c.legIn r convert location w.now w.remote).finish w := rfl
  rw [hrun, hleg]
  simp [Leg.finish, World.haltedBy]

theorem silent_listIn {α : Type} [BEq α] {r : Request}
    {convert : r.Answer → Except BadArgument (List α)} {location : String}
    (hc : ∀ x, c.Answers x → x.Faithful Scopes)
    (hconvert : IsPart location → ∀ answer, r.Proper Scopes answer → ∃ b, convert answer = .ok b)
    (hlocation : Handle.separator ∉ location.toList) {w : World Event γ} {why : BadArgument}
    (hfail : ((do return distinct (← listIn (c.legIn r convert) location) : Flow γ (List α)).run
      w).1 = .error (.argument why)) :
    ((do return distinct (← listIn (c.legIn r convert) location) : Flow γ (List α)).run
      w).2 = w := by
  rw [run_map] at hfail ⊢
  obtain ⟨own, hruns, -⟩ := (c.legIn r convert location w.now w.remote).finish_grows w
  rcases legIn_unrefused hc hconvert hlocation hruns with hempty | hunrefused
  · rw [run_listIn_empty hempty]
  · exact absurd hfail ((hunrefused.map distinct).ne why)

/-- Listing all locations refuses nothing, if what is listed can stand in a handle. -/
theorem listAll_unrefused {α : Type} [BEq α] (request : String → Request)
    (convert : ∀ location, (request location).Answer → Except BadArgument (List α))
    (hc : ∀ x, c.Answers x → x.Faithful Scopes) (hscopes : ∀ scope, Scopes scope → IsPart scope)
    (hconvert : ∀ location, IsPart location → ∀ answer, (request location).Proper Scopes answer →
      ∃ b, convert location answer = .ok b) (w : World Event γ) :
    Unrefused ((c.listAll fun location =>
      c.legIn (request location) (convert location) location).run w).1 := by
  intro f hf
  rcases listAll_error hf with hasked | ⟨scopes, hasked, s, hs, now, remote, trace, hruns⟩
  · exact hc _ hasked
  · have hpart : IsPart s.plain := hscopes _ (hc _ hasked s hs)
    rcases legIn_unrefused hc (hconvert s.plain) hpart.free hruns with hempty | hunrefused
    · rw [hpart.given] at hempty
      cases hempty
    · exact hunrefused f rfl

/-! ## All operations -/

/-- An operation that is placed refuses its arguments before it does anything. -/
theorem silent_of_placed {op : Operation} (hplaced : op.Placed Scopes)
    (hc : ∀ x, c.Answers x → x.Faithful Scopes) {w : World Event γ} {why : BadArgument}
    (hfail : ((c.perform op).run w).1 = .error (.argument why)) :
    ((c.perform op).run w).2 = w := by
  have hvolumes : ∀ location, IsPart location → ∀ answer : List (Option RemoteVolume),
      (Request.describeVolumes location []).Proper Scopes answer →
      ∃ list, volumesOf answer = .ok list := fun _ hpart _ h => volumesOf_ok hpart h
  have hsnapshots : ∀ location, IsPart location → ∀ answer : List (Option RemoteSnapshot),
      (Request.describeSnapshots location none none).Proper Scopes answer →
      ∃ list, snapshotsOf answer = .ok list := fun _ hpart _ h => snapshotsOf_ok hpart h
  cases op with
  | createVolume name options =>
    refine silent_of_admitted (tells_createVolume c name options)
      (fun f h w => run_createVolume_refused h w) hc (fun d xs r hargs hxs hrest => ?_) hfail
    obtain ⟨o, scope, source⟩ := d
    obtain ⟨rfl, hp⟩ := creationArguments_eq_ok hargs
    refine hrest.unrefused (isPart_of_placement hp ?_) hxs
    rintro rfl
    exact hplaced scope hp
  | attachVolume volume node options =>
    refine silent_of_admitted (tells_attachVolume c volume node options)
      (fun f h w => run_attachVolume_refused h w) hc (fun d xs r hargs hxs hrest => ?_) hfail
    exact hrest.unrefused (Handle.isPart_scope (decode_of_attachArguments hargs)) hxs
  | detachVolume volume options =>
    refine silent_of_admitted (tells_detachVolume c volume options)
      (fun f h w => run_detachVolume_refused h w) hc (fun d xs r hargs hxs hrest => ?_) hfail
    have hscope := Handle.isPart_scope (decode_of_detachArguments hargs)
    exact unrefused_of_openedByVolume hrest hxs fun remote ys hys hremote h =>
      h.unrefused hscope hremote hys
  | removeVolume volume =>
    refine silent_of_admitted (tells_removeVolume c volume)
      (fun f h w => run_decode_refused h _ w) hc (fun v xs r hargs hxs hrest => ?_) hfail
    have hscope := Handle.isPart_scope (decode_of_mapError hargs)
    exact unrefused_of_openedByVolume hrest hxs fun remote ys hys hremote h =>
      h.unrefused hscope hremote hys
  | createSnapshot volume options =>
    refine silent_of_admitted (tells_createSnapshot c volume options)
      (fun f h w => run_decode_refused h _ w) hc (fun v xs r hargs hxs hrest => ?_) hfail
    have hscope := Handle.isPart_scope (decode_of_mapError hargs)
    exact unrefused_of_openedByVolume hrest hxs fun source ys hys _ h => h.unrefused hscope hys
  | deleteSnapshot snapshot =>
    refine silent_of_admitted (tells_deleteSnapshot c snapshot)
      (fun f h w => run_decode_refused h _ w) hc (fun s xs r _ hxs hrest => ?_) hfail
    exact unrefused_of_openedBySnapshot hrest hxs fun remote ys hys _ h => h.unrefused hys
  | getVolume volume =>
    refine silent_of_admitted (tells_getVolume c volume)
      (fun f h w => run_decode_refused h _ w) hc (fun v xs r hargs hxs hrest => ?_) hfail
    have hscope := Handle.isPart_scope (decode_of_mapError hargs)
    refine unrefused_of_openedByVolume hrest hxs fun remote ys hys hremote h => ?_
    obtain ⟨found, hfound⟩ := hremote.toVolume hscope
    rw [h.2, hfound]
    exact .ok _
  | getSnapshot snapshot =>
    refine silent_of_admitted (tells_getSnapshot c snapshot)
      (fun f h w => run_decode_refused h _ w) hc (fun s xs r hargs hxs hrest => ?_) hfail
    have hscope := Handle.isPart_scope (decode_of_mapError hargs)
    refine unrefused_of_openedBySnapshot hrest hxs fun remote ys hys hremote h => ?_
    obtain ⟨found, hfound⟩ := hremote.toSnapshot hscope none
    rw [h.2, hfound]
    exact .ok _
  | listVolumesOf node =>
    refine silent_of_admitted (tells_listVolumesOf c node)
      (fun f h w => run_decode_refused h _ w) hc (fun n xs r hargs hxs hrest => ?_) hfail
    have hscope := Handle.isPart_scope (decode_of_mapError hargs)
    exact hrest.unrefused (fun answer h => heldVolumes_ok hscope h) hxs
  | listSnapshotsOf volume =>
    refine silent_of_admitted (tells_listSnapshotsOf c volume)
      (fun f h w => run_decode_refused h _ w) hc (fun v xs r hargs hxs hrest => ?_) hfail
    have hscope := Handle.isPart_scope (decode_of_mapError hargs)
    exact unrefused_of_openedByVolume hrest hxs fun _ ys hys _ h =>
      h.unrefused (fun answer h => snapshotsOf_ok hscope h) hys
  | listVolumesIn location => exact silent_listIn hc (hvolumes location) hplaced hfail
  | listSnapshotsIn location => exact silent_listIn hc (hsnapshots location) hplaced hfail
  | listVolumes =>
    have hunrefused := listAll_unrefused (c := c) (fun location => .describeVolumes location [])
      (fun _ => volumesOf) hc hplaced hvolumes w
    exact absurd hfail (hunrefused.ne why)
  | listSnapshots =>
    have hunrefused := listAll_unrefused (c := c)
      (fun location => .describeSnapshots location none none) (fun _ => snapshotsOf) hc hplaced
      hsnapshots w
    exact absurd hfail (hunrefused.ne why)

/-! ## Echoes -/

def echoVolume (scope : String) : RemoteVolume :=
  ⟨scope, "vol-1", 1.0, "us-east-1a", .available, [], none, none⟩

def echoSnapshot (scope : String) : RemoteSnapshot :=
  ⟨scope, "snap-1", "vol-1", 1.0, .completed, "", none⟩

/-- What a provider answers that has one volume and one snapshot in each scope. -/
def echoReply (scopes : List Datum) : (r : Request) → Except Fault r.Answer
  | .listScopes => .ok scopes
  | .describeVolumes scope _ => .ok [some (echoVolume scope)]
  | .createVolume scope _ _ => .ok (echoVolume scope)
  | .describeSnapshots scope _ _ => .ok [some (echoSnapshot scope)]
  | _ => .error .aborted

/-- The flows over that provider. -/
def echo (scopes : List Datum) : Lifecycle Unit where
  gateway := .prompt (echoReply scopes)

theorem isPart_vol : IsPart "vol-1" := ⟨by decide, by decide⟩

theorem isPart_snap : IsPart "snap-1" := ⟨by decide, by decide⟩

theorem echoVolume_isProper (scope : String) : (echoVolume scope).IsProper scope :=
  ⟨rfl, isPart_vol, fun _ ha => absurd ha List.not_mem_nil⟩

theorem echoSnapshot_isProper (scope : String) : (echoSnapshot scope).IsProper scope :=
  ⟨rfl, isPart_snap, isPart_vol⟩

theorem echo_faithful {scopes : List Datum} (hscopes : ∀ s ∈ scopes, Scopes s.plain) (x : Exchange)
    (hx : (echo scopes).Answers x) : x.Faithful Scopes := by
  have hprompt : (echo scopes).gateway = .prompt (echoReply scopes) := rfl
  have houtcome := outcome_of_answers hprompt hx
  obtain ⟨request, outcome⟩ := x
  dsimp only at houtcome
  subst houtcome
  cases request with
  | listScopes => exact hscopes
  | describeVolumes scope ids =>
    intro v hv
    obtain rfl := Option.some.inj (List.mem_singleton.mp hv)
    exact echoVolume_isProper scope
  | describeSnapshots scope ids volume =>
    intro s hs
    obtain rfl := Option.some.inj (List.mem_singleton.mp hs)
    exact echoSnapshot_isProper scope
  | createVolume scope size zone => exact echoVolume_isProper scope
  | _ => rfl

/-- What the caller has reported is a change of the world. -/
theorem ne_of_wrote {w w' : World Event γ} {own : List Event} (h : w.Wrote own w')
    (hstrays : w.strays = []) (hown : own ≠ []) : w' ≠ w := by
  rintro rfl
  have hjournal := h.journal_eq hstrays
  exact hown (List.append_right_eq_self.mp hjournal.symm)

/-- A volume that is to be made in a scope with a separator is made, and then refused. -/
theorem echo_createVolume (name : Datum) {o : ZonedVolumeOptions} {scope : String}
    (hp : placement o = .ok (scope, none)) (hscope : Handle.separator ∈ scope.toList) :
    (((echo []).createVolume name (.zonedVolume o)).run { remote := () }).1 =
        .error (.argument (.separatorInScope scope)) ∧
      (((echo []).createVolume name (.zonedVolume o)).run { remote := () }).2 ≠
        { remote := () } := by
  have hprompt : (echo []).gateway = .prompt (echoReply []) := rfl
  obtain ⟨own, hwrote, hanswers, hstory⟩ :=
    (tells_createVolume (echo []) name (.zonedVolume o)).wrote { remote := () }
  have hargs : creationArguments (.zonedVolume o) = .ok (o, scope, none) := by
    rw [creationArguments, hp]
    rfl
  generalize hxs : Event.exchanges own = xs at hanswers hstory
  generalize (((echo []).createVolume name (.zonedVolume o)).run { remote := () }).1 = r at hstory ⊢
  rw [hargs] at hstory
  cases hstory with
  | refused h => cases h
  | @admitted d _ _ h hcreation =>
    obtain rfl := Except.ok.inj h
    cases hcreation with
    | fresh outcome hordered =>
      have hmem := hordered.order_mem
      have hmade : outcome = .ok (echoVolume scope) := outcome_of_answers hprompt (hanswers _ hmem)
      refine ⟨?_, ne_of_wrote hwrote rfl ?_⟩
      · subst hmade
        cases hordered with
        | unsettled hwait => cases (hwait.of_ready rfl rfl).2
        | settled _ look =>
          have hlook : look = .ok [some (echoVolume scope)] := outcome_of_answers hprompt
            (hanswers _ (List.mem_append_right _ (List.mem_append_right _ List.mem_cons_self)))
          have hencode := Handle.encode_of_separator isPart_vol hscope
          rw [hlook]
          change ((echoVolume scope).toVolume.map some).mapError Fault.argument = _
          rw [RemoteVolume.toVolume]
          change (((Handle.encode scope "vol-1" >>= _).map some).mapError Fault.argument) = _
          rw [hencode]
          rfl
      · rintro rfl
        rw [← hxs] at hmem
        exact absurd hmem List.not_mem_nil

section Echoed

variable {α : Type} {scopes : List Datum} (r : Request)
  (convert : r.Answer → Except BadArgument (List α)) {location : String} {why : BadArgument}

/-- Where the answer of the echo is refused, so is every run of a listing. -/
theorem echo_legIn (hgiven : location.isEmpty = false)
    (hrefused : converted convert (echoReply scopes r) = .error (.argument why)) {now : Float}
    {trace : List Event} {result : Except Fault (List α)}
    (h : ((echo scopes).legIn r convert location now ()).Runs trace result) :
    Event.asked r ∈ trace ∧ result = .error (.argument why) := by
  have hprompt : (echo scopes).gateway = .prompt (echoReply scopes) := rfl
  rcases legIn_runs h with ⟨hempty, -⟩ | ⟨-, hasked, outcome, hanswer, rfl⟩
  · rw [hgiven] at hempty
    cases hempty
  · have houtcome : outcome = echoReply scopes r := outcome_of_answers hprompt hanswer
    rw [houtcome]
    exact ⟨hasked, hrefused⟩

/-- A listing whose answer is refused has been asked for. -/
theorem echo_listIn [BEq α] (hgiven : location.isEmpty = false)
    (hrefused : converted convert (echoReply scopes r) = .error (.argument why)) :
    ((do return distinct (← listIn ((echo scopes).legIn r convert) location) :
        Flow Unit (List α)).run { remote := () }).1 = .error (.argument why) ∧
      ((do return distinct (← listIn ((echo scopes).legIn r convert) location) :
        Flow Unit (List α)).run { remote := () }).2 ≠ { remote := () } := by
  obtain ⟨own, hruns, hgrows⟩ := ((echo scopes).legIn r convert location 0.0 ()).finish_grows
    { remote := () }
  obtain ⟨hasked, hresult⟩ := echo_legIn r convert hgiven hrefused hruns
  rw [run_map]
  refine ⟨?_, ne_of_wrote hgrows.wrote rfl (List.ne_nil_of_mem hasked)⟩
  exact congrArg (Except.map distinct) hresult

end Echoed

/-- Listing all locations that have been listed. -/
theorem run_listAll {α : Type} [BEq α] {pauses : Nat}
    {call : String → Float → γ → Leg Event γ (Except Fault (List α)) pauses} {w w' : World Event γ}
    {scopes : List Datum} (h : (c.ask .listScopes).run w = (.ok scopes, w')) :
    (c.listAll call).run w =
      ((World.sideBySide (scopes.map fun s => call s.plain) w').1.map fun ls => distinct ls.flatten,
        (World.sideBySide (scopes.map fun s => call s.plain) w').2) := by
  have hrun : (c.listAll call).run w = (ExceptT.bindCont (fun scopes : List Datum => do
      return distinct (← (ExceptT.mk (World.sideBySide (scopes.map fun s => call s.plain)) :
        Flow γ _)).flatten) ((c.ask .listScopes).run w).1 : StateM (World Event γ) _)
      ((c.ask .listScopes).run w).2 := rfl
  rw [hrun, h]
  exact run_map (fun ls => distinct ls.flatten)
    (ExceptT.mk (World.sideBySide (scopes.map fun s => call s.plain))) w'

theorem run_ask_echo (scopes : List Datum) :
    ((echo scopes).ask .listScopes).run { remote := () } = (.ok scopes, World.noteAll
      [.asked .listScopes, .answered .listScopes (.ok scopes)] { remote := () }) := rfl

/-- A listing of all locations whose one location is refused has been asked for. -/
theorem echo_listAll {α : Type} [BEq α] (s : Datum)
    (call : String → Float → Unit → Leg Event Unit (Except Fault (List α)) 0) {f : Fault}
    (hcall : ∀ now remote trace a, (call s.plain now remote).Runs trace a → a = .error f) :
    (((echo [s]).listAll call).run { remote := () }).1 = .error f ∧
      (((echo [s]).listAll call).run { remote := () }).2 ≠ { remote := () } := by
  rw [run_listAll (run_ask_echo [s])]
  constructor
  · change (World.sideBySide [call s.plain] _).1.map _ = _
    rw [World.sideBySide_single rfl hcall]
    rfl
  · change (World.sideBySide [call s.plain] _).2 ≠ _
    generalize hw : World.noteAll _ _ = w
    have hasked : w.journal ≠ [] := by
      rw [← hw]
      exact List.cons_ne_nil _ _
    have hmine : ∀ start ∈ [call s.plain], ∀ now remote e, (start now remote).Reports e → True :=
      fun _ _ _ _ _ _ => trivial
    obtain ⟨own, ⟨news, -, hgrown⟩, -⟩ := World.sideBySide_wrote [call s.plain] w hmine
    intro hsame
    rw [hsame] at hgrown
    exact hasked (List.append_eq_nil_iff.mp hgrown.symm).1

theorem echo_volumes_refused (scopes : List Datum) {scope : String}
    (hscope : Handle.separator ∈ scope.toList) :
    converted volumesOf (echoReply scopes (.describeVolumes scope [])) =
      .error (.argument (.separatorInScope scope)) := by
  have hencode := Handle.encode_of_separator isPart_vol hscope
  have hvolume : (echoVolume scope).toVolume = .error (.separatorInScope scope) := by
    rw [RemoteVolume.toVolume]
    change (Handle.encode scope "vol-1" >>= _) = _
    rw [hencode]
    rfl
  have hlist : volumesOf [some (echoVolume scope)] = .error (.separatorInScope scope) := by
    change [echoVolume scope].mapM RemoteVolume.toVolume = _
    rw [List.mapM_cons, hvolume]
    rfl
  change (volumesOf [some (echoVolume scope)]).mapError Fault.argument = _
  rw [hlist]
  rfl

theorem echo_snapshots_refused (scopes : List Datum) {scope : String}
    (hscope : Handle.separator ∈ scope.toList) :
    converted snapshotsOf (echoReply scopes (.describeSnapshots scope none none)) =
      .error (.argument (.separatorInScope scope)) := by
  have hencode := Handle.encode_of_separator isPart_snap hscope
  have hsnapshot : (echoSnapshot scope).toSnapshot = .error (.separatorInScope scope) := by
    rw [RemoteSnapshot.toSnapshot]
    change (Handle.encode scope "snap-1" >>= _) = _
    rw [hencode]
    rfl
  have hlist : snapshotsOf [some (echoSnapshot scope)] = .error (.separatorInScope scope) := by
    change [echoSnapshot scope].mapM (·.toSnapshot) = _
    rw [List.mapM_cons, hsnapshot]
    rfl
  change (snapshotsOf [some (echoSnapshot scope)]).mapError Fault.argument = _
  rw [hlist]
  rfl

/-- What cannot stand in a handle is empty or holds a separator. -/
theorem given_of_separator {text : String} (h : Handle.separator ∈ text.toList) :
    text.isEmpty = false := by
  refine Bool.eq_false_iff.mpr fun hempty => ?_
  rw [String.isEmpty_iff.mp hempty] at h
  exact List.not_mem_nil h

/-- A listed location that cannot stand in a handle is refused, whatever the time. -/
theorem echo_call_refused {α : Type} {scopes : List Datum} (r : Request)
    (convert : r.Answer → Except BadArgument (List α)) {location : String}
    (hlocation : ¬ IsPart location)
    (hrefused : Handle.separator ∈ location.toList →
      converted convert (echoReply scopes r) = .error (.argument (.separatorInScope location))) :
    ∃ why, ∀ now remote trace result,
      ((echo scopes).legIn r convert location now remote).Runs trace result →
        result = .error (.argument why) := by
  by_cases hempty : location.isEmpty = true
  · refine ⟨.emptyLocation, fun now remote trace result h => ?_⟩
    rcases legIn_runs h with ⟨-, hresult⟩ | ⟨hgiven, -⟩
    · exact hresult
    · rw [hempty] at hgiven
      cases hgiven
  · have hgiven : location.isEmpty = false := by simpa using hempty
    have hseparator : Handle.separator ∈ location.toList :=
      Classical.byContradiction fun hfree => hlocation ⟨hgiven, hfree⟩
    exact ⟨_, fun now remote trace result h =>
      (echo_legIn r convert hgiven (hrefused hseparator) h).2⟩

/-- Every refusal of an operation leaves the world as it was. -/
def RefusesSilently (c : Lifecycle γ) (op : Operation) (w : World Event γ) : Prop :=
  ∀ why, ((c.perform op).run w).1 = .error (.argument why) → ((c.perform op).run w).2 = w

/-- An operation that is not placed refuses too late, over some faithful gateway. -/
theorem placed_of_silent {op : Operation}
    (h : ∀ scopes : List Datum, (∀ s ∈ scopes, Scopes s.plain) →
      RefusesSilently (echo scopes) op { remote := () }) : op.Placed Scopes := by
  have hnone : ∀ s ∈ ([] : List Datum), Scopes s.plain := fun s hs => absurd hs List.not_mem_nil
  have hone : ∀ scope, Scopes scope → ∀ s ∈ [Datum.text scope], Scopes s.plain := by
    intro scope hscope s hs
    rw [List.mem_singleton.mp hs]
    exact hscope
  cases op with
  | createVolume name options =>
    cases options with
    | zonedVolume o =>
      intro scope hp hscope
      obtain ⟨hfails, hchanged⟩ := echo_createVolume name hp hscope
      exact hchanged (h [] hnone _ hfails)
    | _ => trivial
  | listVolumesIn location =>
    intro hscope
    obtain ⟨hfails, hchanged⟩ := echo_listIn (.describeVolumes location []) volumesOf
      (given_of_separator hscope) (echo_volumes_refused [] hscope)
    exact hchanged (h [] hnone _ hfails)
  | listSnapshotsIn location =>
    intro hscope
    obtain ⟨hfails, hchanged⟩ := echo_listIn (.describeSnapshots location none none) snapshotsOf
      (given_of_separator hscope) (echo_snapshots_refused [] hscope)
    exact hchanged (h [] hnone _ hfails)
  | listVolumes =>
    intro scope hscope
    refine Classical.byContradiction fun hpart => ?_
    obtain ⟨why, hwhy⟩ := echo_call_refused (.describeVolumes scope []) volumesOf hpart
      (echo_volumes_refused [.text scope])
    obtain ⟨hfails, hchanged⟩ := echo_listAll (.text scope) (echo [.text scope]).volumesIn hwhy
    exact hchanged (h _ (hone scope hscope) _ hfails)
  | listSnapshots =>
    intro scope hscope
    refine Classical.byContradiction fun hpart => ?_
    obtain ⟨why, hwhy⟩ := echo_call_refused (.describeSnapshots scope none none) snapshotsOf
      hpart (echo_snapshots_refused [.text scope])
    obtain ⟨hfails, hchanged⟩ := echo_listAll (.text scope) (echo [.text scope]).snapshotsIn hwhy
    exact hchanged (h _ (hone scope hscope) _ hfails)
  | _ => trivial

/-- **A refused argument leaves the world as it was, exactly if the scopes that an operation asks
about can stand in a handle.** The gateway is any that refuses no argument itself and answers
properly; which scopes it may list is given. -/
theorem refusal_silent_iff (Scopes : String → Prop) (op : Operation) :
    (∀ (γ : Type) (c : Lifecycle γ), (∀ x, c.Answers x → x.Faithful Scopes) →
      ∀ w, RefusesSilently c op w) ↔ op.Placed Scopes := by
  constructor
  · intro h
    exact placed_of_silent fun scopes hscopes => h Unit _ (echo_faithful hscopes) _
  · intro hplaced γ c hc w why hfail
    exact silent_of_placed hplaced hc hfail

/-- A volume in the zone `eu/west-1a` is made before its handle is refused. -/
theorem echo_creation_not_silent :
    (∀ x, (echo []).Answers x → x.Faithful fun _ => True) ∧ ¬ RefusesSilently (echo [])
      (.createVolume .null (.zonedVolume { sizeGb := some 8.0, zone := "eu/west-1a" }))
      { remote := () } := by
  refine ⟨echo_faithful fun _ _ => trivial, fun hsilent => ?_⟩
  have hp : placement { sizeGb := some 8.0, zone := "eu/west-1a" } = .ok ("eu/west-1", none) := rfl
  obtain ⟨hfails, hchanged⟩ := echo_createVolume .null hp (by decide)
  exact hchanged (hsilent _ hfails)

end Lifecycle

end BlockStorage
