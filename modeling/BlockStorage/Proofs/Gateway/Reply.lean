import BlockStorage.Proofs.Double.Whole
import BlockStorage.Proofs.Gateway.Response

/-!
# Replies that can be read

A reply is one response, or a listing page by page. If whatever it carries can be read,
then reading it fails only with the fault that it brings, which for a listing is that of
the first page that failed.

* `Datum.gives_ordered`: texts can be brought into order.
* `Reply.fault?`: the fault that a reply brings.
* `Request.Expects`: the replies that can be read as an answer to a request.
* `Ec2.Plan.Suits`: a plan that reads them, and speaks of what its request is about.
* `Ec2.gives_plan`: every request whose size is finite has one.
-/

namespace BlockStorage

variable {α : Type}

/-! ## The order of texts -/

namespace Datum

theorem gives_less {a b : Datum} (ha : IsText a) (hb : IsText b) :
    Gives (less a b) fun _ => True := by
  cases ha
  cases hb
  exact ⟨_, by rw [less], trivial⟩

theorem gives_run (falls : Bool) {last : Datum} (hlast : IsText last) {ds : List Datum}
    (h : ∀ d ∈ ds, IsText d) :
    Gives (run falls last ds) fun split =>
      (∀ d ∈ split.1, IsText d) ∧ ∀ d ∈ split.2, IsText d := by
  induction ds generalizing last with
  | nil => exact .ok (by simp)
  | cons d ds ih =>
    obtain ⟨hd, hds⟩ := List.forall_mem_cons.mp h
    refine .bind ((gives_less hd hlast).mono fun less _ => ?_)
    split
    · refine .bind ((ih hd hds).mono fun split hsplit => ?_)
      exact .ok ⟨List.forall_mem_cons.mpr ⟨hd, hsplit.1⟩, hsplit.2⟩
    · exact .ok ⟨by simp, h⟩

theorem gives_place {d : Datum} (hd : IsText d) {ds : List Datum} (h : ∀ d ∈ ds, IsText d) :
    Gives (place d ds) fun _ => True := by
  induction ds using place.induct with
  | case1 ds hdrop =>
    rw [place]
    split
    · exact .ok trivial
    · next hcons => exact absurd (hdrop.symm.trans hcons) (List.cons_ne_nil _ _).symm
  | case2 ds x later hdrop ihfront ihback =>
    have hmiddle : ∀ c ∈ x :: later, IsText c := fun c hc => h c (List.mem_of_mem_drop (hdrop ▸ hc))
    obtain ⟨hx, hlater⟩ := List.forall_mem_cons.mp hmiddle
    rw [place]
    split
    · exact .ok trivial
    · next hcons =>
      obtain ⟨rfl, rfl⟩ := List.cons.inj (hdrop.symm.trans hcons)
      refine .bind ((gives_less hd hx).mono fun less _ => ?_)
      split
      · exact ihfront fun c hc => h c (List.mem_of_mem_take hc)
      · exact .bind ((ihback hlater).mono fun i _ => .ok trivial)

theorem isText_insertIdx {d : Datum} (hd : IsText d) {ds : List Datum} (h : ∀ d ∈ ds, IsText d)
    (i : Nat) : ∀ c ∈ ds.insertIdx i d, IsText c := by
  intro c hc
  by_cases hi : i ≤ ds.length
  · rcases (List.mem_insertIdx hi).mp hc with rfl | hc
    · exact hd
    · exact h c hc
  · rw [List.insertIdx_of_length_lt (Nat.lt_of_not_le hi)] at hc
    exact h c hc

theorem gives_ordered {ds : List Datum} (h : ∀ d ∈ ds, IsText d) :
    Gives (ordered ds) fun sorted => ∀ d ∈ sorted, IsText d := by
  match ds, h with
  | [], h => exact .ok h
  | [d], h => exact .ok h
  | d :: e :: ds, h =>
    obtain ⟨hd, he, hds⟩ : IsText d ∧ IsText e ∧ ∀ d ∈ ds, IsText d := by simpa using h
    rw [ordered]
    refine .bind ((gives_less he hd).mono fun falls _ => ?_)
    refine .bind ((gives_run falls he hds).mono fun split hsplit => ?_)
    have hfront : ∀ c ∈ d :: e :: split.1, IsText c := by
      simpa using ⟨hd, he, hsplit.1⟩
    refine .foldlM ?_ fun c hc sorted hsorted => ?_
    · split
      · exact fun c hc => hfront c (List.mem_reverse.mp hc)
      · exact hfront
    · exact .bind ((gives_place (hsplit.2 c hc) hsorted).mono fun i _ =>
        .ok (isText_insertIdx (hsplit.2 c hc) hsorted i))

end Datum

namespace Ec2

open Datum

/-! ## Listings -/

/-- A page of a listing. Its records, if it has any, are under a key. -/
def IsPage (key : String) (P : Fields → Prop) : Datum → Prop :=
  IsRecord fun fs => MayHave fs key (IsRecords P)

/-- The regions, by their names. -/
def IsRegions : Datum → Prop := IsPage "Regions" fun fs => Has fs "RegionName" IsText

theorem IsPage.gives {key : String} {P : Fields → Prop} {d : Datum} (h : IsPage key P d) :
    Gives (d.keyOr key (.list [])) (IsRecords P) := by
  cases h with
  | record h => exact h.gives (.list (by simp))

theorem gives_regions {d : Datum} (h : IsRegions d) : Gives (regions d) fun _ => True := by
  refine .bind (h.gives.mono fun items hitems => ?_)
  refine .bind (hitems.each.mono fun ds hds => ?_)
  refine .bind ((Gives.mapM (P := IsText) fun d hd => ?_).mono fun names hnames => ?_)
  · cases hds d hd with
    | record h => exact h.gives
  · exact (gives_ordered hnames).mono fun _ _ => trivial

/-- The fault of a page that failed. -/
def pageFault? : Except Fault Datum → Option Fault
  | .error f => some f
  | .ok _ => none

/-- A listing fails with its first page that failed, if all the others can be read. -/
theorem gives_pagesOf {key : String} {record : Datum → Except Fault α} {P : Fields → Prop}
    (hrecord : ∀ d, IsRecord P d → Gives (record d) fun _ => True)
    {pages : List (Except Fault Datum)} (h : ∀ d, .ok d ∈ pages → IsPage key P d) :
    GivesUnless (pages.findSome? pageFault?) (pagesOf key record pages) fun _ => True := by
  induction pages with
  | nil => exact ⟨[], rfl, trivial⟩
  | cons page pages ih =>
    cases page with
    | error f => rfl
    | ok d =>
      have hpages := ih fun d hd => h d (List.mem_cons_of_mem _ hd)
      rw [List.findSome?_cons_of_isNone rfl, pagesOf]
      refine .after (.ok ?_)
      refine .after ((h d List.mem_cons_self).gives.mono fun items hitems => ?_)
      refine .after (hitems.each.mono fun ds hds => ?_)
      refine .after ((Gives.mapM fun d hd => hrecord d (hds d hd)).mono fun records _ => ?_)
      exact hpages.bind fun _ _ => .ok trivial

end Ec2

/-! ## Replies -/

/-- A fault that comes from the provider or from the transport. -/
inductive Fault.IsRemote : Fault → Prop
  | rejected (r : Rejection) : IsRemote (.rejected r)
  | transport (t : Transport) : IsRemote (.transport t)

namespace Reply

/-- The fault that a reply brings: its own, or that of the first page that failed. -/
def fault? : Reply → Option Fault
  | fault f => some f
  | ok _ => none
  | pages ps => ps.findSome? Ec2.pageFault?

/-- A reply that is one response, as `P` says. -/
inductive IsSingle (P : Datum → Prop) : Reply → Prop
  | fault {f : Fault} (h : f.IsRemote) : IsSingle P (.fault f)
  | ok {d : Datum} (h : P d) : IsSingle P (.ok d)

/-- A reply that is a listing, whose pages are as `P` says or failed. -/
inductive IsListing (P : Datum → Prop) : Reply → Prop
  | fault {f : Fault} (h : f.IsRemote) : IsListing P (.fault f)
  | ok {d : Datum} (h : P d) : IsListing P (.ok d)
  | pages {ps : List (Except Fault Datum)} (hfault : ∀ f, .error f ∈ ps → f.IsRemote)
      (h : ∀ d, .ok d ∈ ps → P d) : IsListing P (.pages ps)

theorem IsSingle.isRemote {P : Datum → Prop} {reply : Reply} (h : reply.IsSingle P) {f : Fault}
    (hf : reply.fault? = some f) : f.IsRemote := by
  cases h with
  | fault h =>
    obtain rfl := Option.some.inj hf
    exact h
  | ok h => cases hf

theorem IsListing.isRemote {P : Datum → Prop} {reply : Reply} (h : reply.IsListing P) {f : Fault}
    (hf : reply.fault? = some f) : f.IsRemote := by
  cases h with
  | fault h =>
    obtain rfl := Option.some.inj hf
    exact h
  | ok h => cases hf
  | pages hfault h =>
    obtain ⟨page, hpage, hf⟩ := List.exists_of_findSome?_eq_some hf
    cases page with
    | error g =>
      obtain rfl := Option.some.inj hf
      exact hfault g hpage
    | ok d => cases hf

theorem IsSingle.gives {P : Datum → Prop} {reply : Reply} (h : reply.IsSingle P) :
    GivesUnless reply.fault? (Ec2.single reply) P := by
  cases h with
  | fault _ => rfl
  | ok h => exact Gives.ok h

theorem IsListing.gives {key : String} {record : Datum → Except Fault α} {P : Fields → Prop}
    (hrecord : ∀ d, Datum.IsRecord P d → Gives (record d) fun _ => True) {reply : Reply}
    (h : reply.IsListing (Ec2.IsPage key P)) :
    GivesUnless reply.fault? (Ec2.listing key record reply) fun _ => True := by
  cases h with
  | fault _ => rfl
  | @ok d h =>
    have hpage : ∀ e, .ok e ∈ ([.ok d] : List (Except Fault Datum)) → Ec2.IsPage key P e := by
      intro e he
      cases List.mem_singleton.mp he
      exact h
    exact Ec2.gives_pagesOf hrecord hpage
  | pages _ h => exact Ec2.gives_pagesOf hrecord h

end Reply

/-- The replies that can be read as an answer to a request: with faults of the provider or the
transport only, and with records that can be read. -/
def Request.Expects : Request → Reply → Prop
  | .listScopes => Reply.IsSingle Ec2.IsRegions
  | .describeVolumes _ _ => Reply.IsListing (Ec2.IsPage "Volumes" Ec2.IsVolume)
  | .createVolume _ _ _ | .restoreVolume _ _ _ _ => Reply.IsSingle (Datum.IsRecord Ec2.IsVolume)
  | .attachVolume _ _ _ _ | .detachVolume _ _ _ _ _ =>
    Reply.IsSingle (Datum.IsRecord Ec2.IsAttachment)
  | .describeSnapshots _ _ _ => Reply.IsListing (Ec2.IsPage "Snapshots" Ec2.IsSnapshot)
  | .createSnapshot _ _ _ => Reply.IsSingle (Datum.IsRecord Ec2.IsSnapshot)
  | .deleteVolume _ _ | .deleteSnapshot _ _ => Reply.IsSingle fun _ => True

theorem Request.Expects.isRemote {r : Request} {reply : Reply} (h : r.Expects reply) {f : Fault}
    (hf : reply.fault? = some f) : f.IsRemote := by
  cases r with
  | describeVolumes => exact Reply.IsListing.isRemote h hf
  | describeSnapshots => exact Reply.IsListing.isRemote h hf
  | _ => exact Reply.IsSingle.isRemote h hf

/-! ## Requests and their plans -/

namespace Datum

/-- A number that is neither infinite nor a NaN. -/
inductive IsFinite : Datum → Prop
  | whole (n : Int) : IsFinite (.int n)
  | real {x : Float} (h : x.isFinite = true) : IsFinite (.real x)

theorem IsFinite.gives {d : Datum} (h : IsFinite d) : Gives d.asWhole fun _ => True := by
  cases h with
  | whole n => exact .ok trivial
  | @real x h =>
    obtain ⟨n, hn⟩ := Option.isSome_iff_exists.mp (Double.isSome_truncate? h)
    exact ⟨n, by rw [asWhole, Amount.truncated, hn], trivial⟩

end Datum

namespace Request

/-- The size that a request orders is finite. Only a volume from a snapshot may have none. -/
def IsFinite : Request → Prop
  | createVolume _ sizeGb _ => sizeGb.IsFinite
  | restoreVolume _ _ _ sizeGb => sizeGb = .null ∨ sizeGb.IsFinite
  | _ => True

/-- The local ids of the resources that a request needs. -/
def needs : Request → List String
  | describeVolumes _ ids => ids
  | describeSnapshots _ ids _ => ids.getD []
  | restoreVolume _ id _ _ | deleteVolume _ id | attachVolume _ id _ _ | detachVolume _ id _ _ _
  | createSnapshot _ id _ | deleteSnapshot _ id => [id]
  | listScopes | createVolume _ _ _ => []

/-- The name of the call in the metrics. -/
def meteredCall : Request → String
  | listScopes => "describe_regions"
  | r => r.call

end Request

namespace Ec2

/-- The id by which a missing resource is reported: of the scope, and of what the request needs. -/
def missingId (settings : Ec2Settings) (r : Request) : String :=
  let scope := r.scope?.getD settings.defaultRegion
  let ids := ",".intercalate r.needs
  if ids.isEmpty then scope else scope ++ "/" ++ ids

/-- A plan that has its arguments, and speaks of the call, the scope and the resources of its
request. -/
structure Plan.Suits (settings : Ec2Settings) (r : Request) (p : Plan r.Answer) : Prop where
  arguments : Gives p.arguments fun _ => True
  call : p.call = r.meteredCall
  region : p.region = r.scope?.getD settings.defaultRegion
  resource : p.resource = ",".intercalate r.needs
  /-- A reply that the request expects fails the attempt with its own fault, or is read. -/
  read : ∀ reply, r.Expects reply →
    GivesUnless reply.fault? (p.read reply) fun answer => ∃ a, answer = .ok a

theorem gives_createArguments (zone : String) {sizeGb : Datum} (h : sizeGb.IsFinite) :
    Gives (createArguments zone sizeGb) fun _ => True := by
  obtain ⟨n, hn, _⟩ := h.gives
  exact ⟨_, by rw [createArguments, hn]; rfl, trivial⟩

theorem gives_restoreArguments (zone snapshotId : String) {sizeGb : Datum}
    (h : sizeGb = .null ∨ sizeGb.IsFinite) :
    Gives (restoreArguments zone snapshotId sizeGb) fun _ => True := by
  rw [restoreArguments]
  rcases h with rfl | h
  · exact .ok trivial
  · obtain ⟨n, hn, _⟩ := h.gives
    split
    · exact ⟨_, by rw [hn]; rfl, trivial⟩
    · exact .ok trivial

/-- A response is read after the attempt: its reply alone decides whether the attempt fails. -/
theorem gives_single {record : Datum → Except Fault α} {P : Datum → Prop}
    (hrecord : ∀ d, P d → Gives (record d) fun _ => True) {reply : Reply} (h : reply.IsSingle P) :
    GivesUnless reply.fault? (do return record (← single reply)) fun answer =>
      ∃ a, answer = .ok a :=
  h.gives.bind fun d hd => .ok ((hrecord d hd).imp fun _ ha => ha.1)

/-- The records of a listing are read as part of the attempt. -/
theorem gives_listing {key : String} {record : Datum → Except Fault α} {P : Fields → Prop}
    (hrecord : ∀ d, Datum.IsRecord P d → Gives (record d) fun _ => True) {reply : Reply}
    (h : reply.IsListing (IsPage key P)) :
    GivesUnless reply.fault?
      (do return .ok ((← listing key record reply).map some) :
        Except Fault (Except Fault (List (Option α)))) fun answer => ∃ a, answer = .ok a :=
  (h.gives hrecord).bind fun records _ => .ok ⟨records.map some, rfl⟩

/-- A request whose size is finite has a plan. -/
theorem gives_plan (settings : Ec2Settings) {r : Request} (h : r.IsFinite) :
    Gives (plan settings r) (Plan.Suits settings r) := by
  cases r with
  | listScopes =>
    refine .ok ⟨.ok trivial, rfl, rfl, rfl, fun reply hreply => ?_⟩
    exact (Reply.IsSingle.gives hreply).bind fun d hd =>
      .bind ((gives_regions hd).mono fun names _ => .ok ⟨names, rfl⟩)
  | describeVolumes scope ids =>
    exact .ok ⟨.ok trivial, rfl, rfl, rfl, fun _ => gives_listing fun _ => gives_volume scope⟩
  | createVolume scope sizeGb zone =>
    exact .ok ⟨gives_createArguments zone h, rfl, rfl, rfl,
      fun _ => gives_single fun _ => gives_volume scope⟩
  | restoreVolume scope snapshotId zone sizeGb =>
    refine .bind ((gives_restoreArguments zone snapshotId h).mono fun arguments _ => ?_)
    exact .ok ⟨.ok trivial, rfl, rfl, rfl, fun _ => gives_single fun _ => gives_volume scope⟩
  | deleteVolume scope volumeId =>
    exact .ok ⟨.ok trivial, rfl, rfl, rfl,
      fun reply hreply => (Reply.IsSingle.gives hreply).bind fun _ _ => .ok ⟨(), rfl⟩⟩
  | attachVolume scope volumeId nodeId device =>
    exact .ok ⟨.ok trivial, rfl, rfl, rfl, fun _ => gives_single fun _ => gives_attachment⟩
  | detachVolume scope volumeId force device nodeId =>
    exact .ok ⟨.ok trivial, rfl, rfl, rfl, fun _ => gives_single fun _ => gives_attachment⟩
  | describeSnapshots scope ids volumeId =>
    exact .ok ⟨.ok trivial, rfl, rfl, rfl, fun _ => gives_listing fun _ => gives_snapshot scope⟩
  | createSnapshot scope volumeId description =>
    exact .ok ⟨.ok trivial, rfl, rfl, rfl, fun _ => gives_single fun _ => gives_snapshot scope⟩
  | deleteSnapshot scope snapshotId =>
    exact .ok ⟨.ok trivial, rfl, rfl, rfl,
      fun reply hreply => (Reply.IsSingle.gives hreply).bind fun _ _ => .ok ⟨(), rfl⟩⟩

end Ec2

end BlockStorage
