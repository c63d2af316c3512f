import BlockStorage.Proofs.Check
import BlockStorage.Proofs.Gateway.Attempt
import Mathlib.Data.List.Forall2

/-!
# Listings that come in pages

A listing is read page by page within one attempt, so an attempt that fails takes along
whatever it has read, and the next one begins with the first page again. What a listing
answers are the records of one attempt, each of them once.

* `Ec2.HasItems`, `Ec2.ReadsPage`: the items of a page and their records. `Ec2.AbortsAt`: where an
  attempt fails.
* `Ec2.pagesOf_eq_ok_iff`, `Ec2.pagesOf_eq_error_iff`: the two ends of reading pages.
* `Ec2.Asked`: the requests of a call by its end; `Ec2.asked_of_runs`: of every run.
* `Ec2.Listed`: what a listing has done when it ends.
* `Ec2.describes_listed`: every listing of volumes or snapshots has done that.
-/

namespace BlockStorage

/-- The pages of a reply. A fault comes instead of the first one. -/
def Reply.inPages : Reply → List (Except Fault Datum)
  | .fault f => [.error f]
  | .ok d => [.ok d]
  | .pages ps => ps

/-- Whether an event says that a client was opened, or what was asked of it. -/
def WireEvent.isRequest : WireEvent → Bool
  | opened _ _ | sent _ _ _ _ => true
  | _ => false

namespace Ec2

open RetryPolicy (Guarded Course)
open WireEvent (isRequest isRetrying)

variable {χ α β : Type}

/-! ## Pages -/

section Pages

variable {key : String} {record : Datum → Except Fault β} {page : Except Fault Datum}
  {pages : List (Except Fault Datum)} {vs : List β} {why : Fault}

theorem bind_eq_ok {x : Except Fault α} {f : α → Except Fault β} {b : β} :
    (x >>= f) = .ok b ↔ ∃ a, x = .ok a ∧ f a = .ok b := by
  cases x with
  | error why => exact iff_of_false (by rintro ⟨⟩) (by rintro ⟨_, ⟨⟩, _⟩)
  | ok a => exact ⟨fun h => ⟨a, rfl, h⟩, fun ⟨_, ha, h⟩ => Except.ok.inj ha ▸ h⟩

theorem bind_eq_error {x : Except Fault α} {f : α → Except Fault β} :
    (x >>= f) = .error why ↔ x = .error why ∨ ∃ a, x = .ok a ∧ f a = .error why := by
  cases x with
  | error other => exact ⟨fun h => .inl (congrArg _ (Except.error.inj h)), by
      rintro (h | ⟨_, ⟨⟩, _⟩)
      exact congrArg _ (Except.error.inj h)⟩
  | ok a => exact ⟨fun h => .inr ⟨a, rfl, h⟩, by
      rintro (⟨⟨⟩⟩ | ⟨_, ha, h⟩)
      exact Except.ok.inj ha ▸ h⟩

theorem mapM_eq_ok_iff {f : α → Except Fault β} {as : List α} {bs : List β} :
    as.mapM f = .ok bs ↔ List.Forall₂ (fun a b => f a = .ok b) as bs := by
  induction as generalizing bs with
  | nil => cases bs <;> simp [pure, Except.pure]
  | cons a as ih =>
    simp only [List.mapM_cons, bind_eq_ok, ih]
    constructor
    · rintro ⟨b, hb, bs', hbs, h⟩
      obtain rfl := Except.ok.inj h
      exact .cons hb hbs
    · rintro (_ | ⟨hb, hbs⟩)
      exact ⟨_, hb, _, hbs, rfl⟩

/-- The items of a page. -/
def itemsOf (key : String) (page : Datum) : Except Fault (List Datum) := do
  (← page.keyOr key (.list [])).each

/-- A page is a record that has its items under a key; without the key it has none. -/
inductive HasItems (key : String) : Datum → List Datum → Prop
  | absent {fs : Fields} (h : fs.lookup key = none) : HasItems key (.record fs) []
  | present {fs : Fields} {d : Datum} {ds : List Datum} (h : fs.lookup key = some d)
      (hitems : d.each = .ok ds) : HasItems key (.record fs) ds

theorem itemsOf_eq_ok_iff {d : Datum} {ds : List Datum} :
    itemsOf key d = .ok ds ↔ HasItems key d ds := by
  constructor
  · intro h
    obtain ⟨items, hkey, heach⟩ := bind_eq_ok.mp h
    cases d with
    | record fs =>
      obtain rfl := Except.ok.inj hkey
      cases hlookup : fs.lookup key with
      | none =>
        rw [hlookup] at heach
        obtain rfl := Except.ok.inj heach
        exact .absent hlookup
      | some d =>
        rw [hlookup] at heach
        exact .present hlookup heach
    | _ => cases hkey
  · rintro (hnone | ⟨hsome, heach⟩)
    · rw [itemsOf, Datum.keyOr, hnone]
      rfl
    · rw [itemsOf, Datum.keyOr, hsome]
      exact heach

/-- What is read of a page. -/
def readPage (key : String) (record : Datum → Except Fault β) (page : Except Fault Datum) :
    Except Fault (List β) := do
  let ds ← itemsOf key (← page)
  ds.mapM record

/-- The records of a page: one for each of its items, in their order. -/
inductive ReadsPage (key : String) (record : Datum → Except Fault β) :
    Except Fault Datum → List β → Prop
  | items {d : Datum} {ds : List Datum} {vs : List β} (hitems : HasItems key d ds)
      (hrecords : List.Forall₂ (fun d v => record d = .ok v) ds vs) :
      ReadsPage key record (.ok d) vs

theorem readPage_eq_ok_iff : readPage key record page = .ok vs ↔ ReadsPage key record page vs := by
  simp only [readPage, bind_eq_ok, mapM_eq_ok_iff, itemsOf_eq_ok_iff]
  constructor
  · rintro ⟨d, rfl, ds, hds, hvs⟩
    exact .items hds hvs
  · rintro ⟨hds, hvs⟩
    exact ⟨_, rfl, _, hds, hvs⟩

theorem pagesOf_cons (page : Except Fault Datum) (pages : List (Except Fault Datum)) :
    pagesOf key record (page :: pages) = do
      let records ← readPage key record page
      return records ++ (← pagesOf key record pages) := by
  rw [pagesOf]
  simp only [readPage, itemsOf, bind_assoc]

/-- **Pages that are read to the end give their records**, one page after the other. -/
theorem pagesOf_eq_ok_iff :
    pagesOf key record pages = .ok vs ↔
      ∃ found : List (List β), List.Forall₂ (ReadsPage key record) pages found ∧
        vs = found.flatten := by
  induction pages generalizing vs with
  | nil =>
    constructor
    · intro h
      obtain rfl := Except.ok.inj h
      exact ⟨[], .nil, rfl⟩
    · rintro ⟨_, ⟨⟩, rfl⟩
      rfl
  | cons page pages ih =>
    simp only [pagesOf_cons, bind_eq_ok, ih, readPage_eq_ok_iff]
    constructor
    · rintro ⟨records, hpage, _, ⟨found, hpages, rfl⟩, h⟩
      obtain rfl := Except.ok.inj h
      exact ⟨records :: found, .cons hpage hpages, rfl⟩
    · rintro ⟨_, _ | ⟨hpage, hpages⟩, rfl⟩
      exact ⟨_, hpage, _, ⟨_, hpages, rfl⟩, rfl⟩

/-- Where an attempt that reads pages fails: at a page after some that were read. -/
inductive AbortsAt (key : String) (record : Datum → Except Fault β) (why : Fault) :
    List (Except Fault Datum) → Prop
  | page {read : List (Except Fault Datum)} {found : List (List β)} {page : Except Fault Datum}
      {unread : List (Except Fault Datum)} (hread : List.Forall₂ (ReadsPage key record) read found)
      (hpage : readPage key record page = .error why) :
      AbortsAt key record why (read ++ page :: unread)

/-- **Pages that are not read to the end** fail at one of them, whatever comes after it. -/
theorem pagesOf_eq_error_iff :
    pagesOf key record pages = .error why ↔ AbortsAt key record why pages := by
  constructor
  · induction pages with
    | nil => rintro ⟨⟩
    | cons page pages ih =>
      rw [pagesOf_cons, bind_eq_error]
      rintro (hpage | ⟨vs, hvs, h⟩)
      · have hnone : List.Forall₂ (ReadsPage key record) [] [] := .nil
        exact .page hnone hpage
      · rcases bind_eq_error.mp h with h | ⟨_, -, ⟨⟩⟩
        obtain ⟨hread, hpage⟩ := ih h
        exact .page (.cons (readPage_eq_ok_iff.mp hvs) hread) hpage
  · rintro ⟨hread, hpage⟩
    induction hread with
    | nil => rw [List.nil_append, pagesOf_cons, hpage]; rfl
    | cons hfirst _ ih =>
      rw [List.cons_append, pagesOf_cons, readPage_eq_ok_iff.mpr hfirst]
      exact bind_eq_error.mpr (.inr ⟨_, rfl, bind_eq_error.mpr (.inl ih)⟩)

theorem listing_eq (reply : Reply) :
    listing key record reply = pagesOf key record reply.inPages := by
  cases reply <;> rfl

end Pages

/-! ## Requests -/

section Requests

variable {settings : Ec2Settings} {client : Client χ} {p : Plan α} {arguments : Fields}

/-- What an attempt asks for: a client of its own, and all over again what the plan says. -/
def asks (settings : Ec2Settings) (p : Plan α) (arguments : Fields) (reply : Reply) :
    List WireEvent :=
  [.opened p.region settings.endpoint, .sent p.region p.operation arguments reply]

theorem does_ask (settings : Ec2Settings) (client : Client χ)
    (hargs : p.arguments = .ok arguments) :
    Does isRequest (attempt settings client p).run fun es r =>
      ∃ reply, es = asks settings p arguments reply ∧ r = p.read reply := by
  refine does_open settings client p (fun f hf => ?_) fun given reply hgiven => ?_
  · cases hf.symm.trans hargs
  · obtain rfl := Except.ok.inj (hargs.symm.trans hgiven)
    exact ⟨reply, rfl, rfl⟩

/-- What a call has asked for by its end: the same in each attempt. It ends with the first attempt
whose reply is read, and where there is none it fails. -/
inductive Asked (settings : Ec2Settings) (policy : RetryPolicy) (p : Plan α) (arguments : Fields) :
    List WireEvent → Except Fault (Except Fault α) → Prop
  | answered {aborted : List Reply} {last : Reply} {answer : Except Fault α}
      (haborted : ∀ reply ∈ aborted, ∃ why, p.read reply = .error why ∧ policy.Repeats why)
      (hlast : p.read last = .ok answer) :
      Asked settings policy p arguments ((aborted ++ [last]).flatMap (asks settings p arguments))
        (.ok answer)
  | failed {aborted : List Reply} {why : Fault}
      (haborted : ∀ reply ∈ aborted, ∃ f, p.read reply = .error f) :
      Asked settings policy p arguments (aborted.flatMap (asks settings p arguments)) (.error why)

variable {q : RetryPolicy} {es : List WireEvent} {outcome : Except Fault (Except Fault α)}
  {reply : Reply} {why : Fault}

/-- One more attempt before the others. -/
theorem Asked.again (h : Asked settings q p arguments es outcome)
    (hread : p.read reply = .error why) (hwhy : q.Repeats why) :
    Asked settings q p arguments (asks settings p arguments reply ++ es) outcome := by
  cases h with
  | answered haborted hlast =>
    exact .answered (List.forall_mem_cons.mpr ⟨⟨why, hread, hwhy⟩, haborted⟩) hlast
  | failed haborted => exact .failed (List.forall_mem_cons.mpr ⟨⟨why, hread⟩, haborted⟩)

/-- A single attempt whose reply is read. -/
theorem Asked.once {answer : Except Fault α} (hread : p.read reply = .ok answer) :
    Asked settings q p arguments (asks settings p arguments reply) (.ok answer) := by
  have hnone : ∀ reply ∈ [], ∃ why, p.read reply = .error why ∧ q.Repeats why := nofun
  exact .answered hnone hread

/-- A single attempt whose reply is not read. Another fault may take the place of its own. -/
theorem Asked.in_vain {f : Fault} (hread : p.read reply = .error f) :
    Asked settings q p arguments (asks settings p arguments reply) (.error why) :=
  .failed (List.forall_mem_singleton.mpr ⟨f, hread⟩)

theorem asked_of_course {left : Nat}
    (h : q.Course (Guarded isRequest fun es r =>
      ∃ reply, es = asks settings p arguments reply ∧ r = p.read reply) left es outcome) :
    Asked settings q p arguments es outcome := by
  induction h with
  | last h _ =>
    cases h with
    | made h =>
      obtain ⟨reply, rfl, rfl⟩ := h
      cases hread : p.read reply with
      | ok answer => exact .once hread
      | error f => exact .in_vain hread
    -- the breaker rejected the attempt before it asked for anything
    | rejected => exact .failed (List.forall_mem_nil _)
  | exhausted h hwhy =>
    obtain ⟨reply, rfl, hread⟩ := h.of_repeats hwhy
    exact .in_vain hread.symm
  | overdue h hwhy =>
    obtain ⟨reply, rfl, hread⟩ := h.of_repeats hwhy
    exact .in_vain hread.symm
  | again h hwhy _ ih =>
    obtain ⟨reply, rfl, hread⟩ := h.of_repeats hwhy
    exact ih.again hread.symm hwhy

/-- **What a call asks for**, and what is made of it. -/
theorem asked_of_runs {r : Request} {p : Plan r.Answer} (hasks : r ≠ .listScopes)
    (hplan : plan settings r = .ok p) (hargs : p.arguments = .ok arguments) {now : Float}
    {wire : Wire χ} {trace : List WireEvent} {answer : Except Fault r.Answer}
    (h : ((gateway settings client).call r now wire).Runs trace answer) :
    ∃ outcome fs, Asked settings (policy settings r) p arguments (trace.filter isRequest) outcome ∧
      Concludes isRequest p outcome fs answer := by
  have hkeep : ∀ e, isRetrying e = true → isRequest e = false := by
    intro e he
    cases e <;> first | rfl | cases he
  rw [call_eq_request (fun h => absurd h hasks), request, hplan] at h
  obtain ⟨es, fs, outcome, heq, hcourse, hconcludes⟩ := RetryPolicy.course_of_runs hkeep
    (does_ask settings client hargs) (does_conclude (fun _ _ => rfl) p now) h
  have hnone : fs = [] := by cases hconcludes <;> rfl
  rw [heq, hnone, List.append_nil]
  exact ⟨outcome, fs, asked_of_course hcourse, hconcludes⟩

end Requests

/-! ## The records of a scope -/

section Scope

variable {scope : String} {d : Datum} {fields : Fields}

theorem checked_eq_ok {r : Reader α} {a : α} (h : checked r fields = .ok a) :
    r (.record fields) = .good a := by
  rw [checked] at h
  cases hr : r (.record fields) with
  | good b =>
    rw [hr] at h
    exact congrArg _ (Except.ok.inj h)
  | bad issues =>
    rw [hr] at h
    cases h

theorem volume_check_scope : Check.Yields (fun v : RemoteVolume => v.scope = scope)
    (RemoteVolume.check (.record (("scope", .text scope) :: fields))) := by
  -- the seven fields after the scope do not matter
  iterate 7 refine .seq ?_
  refine .map ?_
  intro given hgiven
  obtain rfl := Checked.good.inj hgiven
  intros
  rfl

theorem snapshot_check_scope : Check.Yields (fun s : RemoteSnapshot => s.scope = scope)
    (RemoteSnapshot.check (.record (("scope", .text scope) :: fields))) := by
  iterate 6 refine .seq ?_
  refine .map ?_
  intro given hgiven
  obtain rfl := Checked.good.inj hgiven
  intros
  rfl

/-- **A volume that is read carries the scope** that it was asked for in. -/
theorem volume_scope {v : RemoteVolume} (h : volume scope d = .ok v) : v.scope = scope := by
  simp only [volume, bind_eq_ok] at h
  obtain ⟨_, -, _, -, _, -, _, -, _, -, _, -, _, -, _, -, _, -, _, -, _, -, read, hread, h⟩ := h
  obtain rfl := Except.ok.inj h
  exact volume_check_scope read (checked_eq_ok hread)

/-- **A snapshot that is read carries the scope** that it was asked for in. -/
theorem snapshot_scope {s : RemoteSnapshot} (h : snapshot scope d = .ok s) : s.scope = scope := by
  simp only [snapshot, bind_eq_ok] at h
  obtain ⟨_, -, _, -, _, -, _, -, _, -, _, -, _, -, _, -, read, hread, h⟩ := h
  obtain rfl := Except.ok.inj h
  exact snapshot_check_scope read (checked_eq_ok hread)

end Scope

/-! ## Listings -/

/-- Records that the provider lists in pages. -/
structure Paged (β : Type) where
  /-- What the provider calls the operation. -/
  operation : String
  /-- Where a page has its items. -/
  key : String
  /-- Maps an item of a scope. -/
  record : String → Datum → Except Fault β
  scopeOf : β → String

namespace Paged

def volumes : Paged RemoteVolume where
  operation := "describe_volumes"
  key := "Volumes"
  record := volume
  scopeOf := RemoteVolume.scope

def snapshots : Paged RemoteSnapshot where
  operation := "describe_snapshots"
  key := "Snapshots"
  record := snapshot
  scopeOf := RemoteSnapshot.scope

end Paged

/-- Without ids all volumes of the scope are asked for. -/
def volumeArguments (ids : List String) : Fields :=
  if ids.isEmpty then [] else [("VolumeIds", .list (ids.map .text))]

/-- What an attempt at a listing asks for: a client of its own, and the listing from its first
page. -/
def Paged.asks (kind : Paged β) (settings : Ec2Settings) (scope : String) (arguments : Fields)
    (reply : Reply) : List WireEvent :=
  [.opened scope settings.endpoint, .sent scope kind.operation arguments reply]

/-- What a listing has done when it ends. An attempt that reads all its pages is the last, and the
answer; the others before it were aborted at some page, in a way that may pass. Without such an
attempt the listing fails. -/
inductive Listed (settings : Ec2Settings) (kind : Paged β) (scope : String) (arguments : Fields) :
    List WireEvent → Except Fault (List (Option β)) → Prop
  | answered {trace : List WireEvent} {aborted : List Reply} {last : Reply} {found : List (List β)}
      (requests : trace.filter isRequest =
        (aborted ++ [last]).flatMap (kind.asks settings scope arguments))
      (aborts : ∀ reply ∈ aborted, ∃ why, AbortsAt kind.key (kind.record scope) why reply.inPages ∧
        Fault.classify why = .retryable)
      (pages : List.Forall₂ (ReadsPage kind.key (kind.record scope)) last.inPages found)
      (scopes : ∀ v ∈ found.flatten, kind.scopeOf v = scope) :
      Listed settings kind scope arguments trace (.ok (found.flatten.map some))
  | failed {trace : List WireEvent} {aborted : List Reply} {why : Fault}
      (requests : trace.filter isRequest = aborted.flatMap (kind.asks settings scope arguments))
      (aborts : ∀ reply ∈ aborted, ∃ f, AbortsAt kind.key (kind.record scope) f reply.inPages) :
      Listed settings kind scope arguments trace (.error why)

section Listings

variable {kind : Paged β} {scope : String} {arguments : Fields} {reply : Reply} {why : Fault}

/-- How a plan for a listing reads a reply. -/
def Paged.answer (kind : Paged β) (scope : String) (reply : Reply) :
    Except Fault (Except Fault (List (Option β))) := do
  return .ok ((← listing kind.key (kind.record scope) reply).map some)

theorem answer_eq_ok_iff {answer : Except Fault (List (Option β))} :
    kind.answer scope reply = .ok answer ↔
      ∃ found, List.Forall₂ (ReadsPage kind.key (kind.record scope)) reply.inPages found ∧
        answer = .ok (found.flatten.map some) := by
  simp only [Paged.answer, bind_eq_ok, listing_eq, pagesOf_eq_ok_iff]
  constructor
  · rintro ⟨_, ⟨found, hpages, rfl⟩, h⟩
    exact ⟨found, hpages, (Except.ok.inj h).symm⟩
  · rintro ⟨found, hpages, rfl⟩
    exact ⟨_, ⟨found, hpages, rfl⟩, rfl⟩

theorem answer_eq_error_iff : kind.answer scope reply = .error why ↔
    AbortsAt kind.key (kind.record scope) why reply.inPages := by
  simp only [Paged.answer, bind_eq_error, listing_eq, pagesOf_eq_error_iff]
  exact or_iff_left fun ⟨_, _, h⟩ => nomatch h

theorem scope_of_pages (hscope : ∀ {d v}, kind.record scope d = .ok v → kind.scopeOf v = scope)
    {pages : List (Except Fault Datum)} {found : List (List β)}
    (h : List.Forall₂ (ReadsPage kind.key (kind.record scope)) pages found) :
    ∀ v ∈ found.flatten, kind.scopeOf v = scope := by
  induction h with
  | nil => rintro _ ⟨⟩
  | cons hpage _ ih =>
    obtain ⟨-, hrecords⟩ := hpage
    have hscopes := hrecords.flip.imp fun v d hv => And.intro (hscope hv) hv
    rw [List.flatten_cons]
    exact List.forall_mem_append.mpr ⟨((List.forall₂_and_left _ _).mp hscopes).1, ih⟩

/-- What a call has done whose plan is a listing. -/
theorem Asked.listed {settings : Ec2Settings} {q : RetryPolicy} {p : Plan (List (Option β))}
    {trace fs : List WireEvent} {outcome : Except Fault (Except Fault (List (Option β)))}
    {answer : Except Fault (List (Option β))}
    (h : Asked settings q p arguments (trace.filter isRequest) outcome)
    (hanswer : Concludes isRequest p outcome fs answer) (hjudge : q.judge = Fault.classify)
    (hregion : p.region = scope) (hoperation : p.operation = kind.operation)
    (hread : p.read = kind.answer scope)
    (hscope : ∀ {d v}, kind.record scope d = .ok v → kind.scopeOf v = scope) :
    Listed settings kind scope arguments trace answer := by
  have hasks : asks settings p arguments = kind.asks settings scope arguments := by
    funext reply
    rw [asks, Paged.asks, hregion, hoperation]
  generalize hes : trace.filter isRequest = es at h
  cases h with
  | @answered aborted last _ haborted hlast =>
    rw [hread] at hlast
    obtain ⟨found, hpages, rfl⟩ := answer_eq_ok_iff.mp hlast
    cases hanswer
    rw [hasks] at hes
    refine .answered hes (fun reply hreply => ?_) hpages (scope_of_pages hscope hpages)
    obtain ⟨why, hwhy, hrepeats⟩ := haborted reply hreply
    rw [hread] at hwhy
    exact ⟨why, answer_eq_error_iff.mp hwhy, hjudge ▸ hrepeats.2⟩
  | @failed aborted why haborted =>
    rw [hasks] at hes
    have haborts : ∀ reply ∈ aborted, ∃ f,
        AbortsAt kind.key (kind.record scope) f reply.inPages := by
      intro reply hreply
      obtain ⟨f, hf⟩ := haborted reply hreply
      rw [hread] at hf
      exact ⟨f, answer_eq_error_iff.mp hf⟩
    cases hanswer with
    | meant => exact .failed hes haborts
    | passed => exact .failed hes haborts

end Listings

/-- **A listing loses nothing and tells nothing twice.** What it answers are the records of the
pages of one attempt, in the order of the pages and of the items in each, and all of its scope.
Whatever an earlier attempt has read was given up with the attempt, which failed in a way that may
pass. And it does answer, once an attempt reads all its pages. -/
theorem describes_listed (settings : Ec2Settings) (client : Client χ) (scope : String) (now : Float)
    (wire : Wire χ) (trace : List WireEvent) :
    (∀ ids answer,
      ((gateway settings client).call (.describeVolumes scope ids) now wire).Runs trace answer →
      Listed settings .volumes scope (volumeArguments ids) trace answer) ∧
    ∀ ids volumeId answer,
      ((gateway settings client).call (.describeSnapshots scope ids volumeId) now wire).Runs trace
        answer →
      Listed settings .snapshots scope (snapshotArguments (ids.getD []) volumeId) trace
        answer := by
  constructor
  · intro ids answer h
    obtain ⟨outcome, fs, hasked, hconcludes⟩ :=
      asked_of_runs (r := .describeVolumes scope ids) nofun rfl rfl h
    exact hasked.listed hconcludes rfl rfl rfl rfl volume_scope
  · intro ids volumeId answer h
    obtain ⟨outcome, fs, hasked, hconcludes⟩ :=
      asked_of_runs (r := .describeSnapshots scope ids volumeId) nofun rfl rfl h
    exact hasked.listed hconcludes rfl rfl rfl rfl snapshot_scope

/-- A page of one item, in which a volume is found as well as a snapshot. -/
def pageOf (id : String) : Datum :=
  let item : Datum := .record [("VolumeId", .text id), ("SnapshotId", .text id)]
  .record [("Volumes", .list [item]), ("Snapshots", .list [item])]

/-- A client whose first listing breaks off after a page. The next one goes on to a page without any
items, and beyond it. -/
def tornOnce : Client Bool where
  send _ _ _ again :=
    (.pages (if again then [.ok (pageOf "1"), .ok (.record []), .ok (pageOf "2")]
      else [.ok (pageOf "1"), .error (.timedOut "")]), true)

/-- A call that is finished with an answer has a run with that answer. -/
theorem exists_runs_of_finish {pauses : Nat} (leg : Leg WireEvent (Wire χ) (Except Fault α) pauses)
    (wire : Wire χ) (f : α → β) {b : β} {n : Nat}
    (hanswer : (leg.finish { remote := wire }).1.toOption.map f = some b)
    (hrequests : ((leg.finish { remote := wire }).2.journal.filter isRequest).length = n) :
    ∃ trace a, leg.Runs trace (.ok a) ∧ (trace.filter isRequest).length = n ∧ f a = b := by
  obtain ⟨own, hruns, hgrows⟩ := leg.finish_grows { remote := wire }
  rw [hgrows.wrote.journal_eq rfl, List.nil_append] at hrequests
  cases hresult : (leg.finish { remote := wire }).1 with
  | error why =>
    rw [hresult] at hanswer
    cases hanswer
  | ok a =>
    rw [hresult] at hruns hanswer
    exact ⟨own, a, hruns, hrequests, Option.some.inj hanswer⟩

/-- The page that was read twice counts once. -/
theorem torn_listing_listed :
    (∃ trace records, ((gateway {} tornOnce).call (.describeVolumes "us-east-1" []) 0.0
        { client := false }).Runs trace (.ok records) ∧
      (trace.filter isRequest).length = 4 ∧
      records.map (Option.map RemoteVolume.volumeId) = [some "1", some "2"] ∧
      Listed {} .volumes "us-east-1" [] trace (.ok records)) ∧
    ∃ trace records, ((gateway {} tornOnce).call (.describeSnapshots "us-east-1" none none) 0.0
        { client := false }).Runs trace (.ok records) ∧
      (trace.filter isRequest).length = 4 ∧
      records.map (Option.map RemoteSnapshot.snapshotId) = [some "1", some "2"] ∧
      Listed {} .snapshots "us-east-1" [("OwnerIds", .list [.text "self"])] trace
        (.ok records) := by
  let wire : Wire Bool := { client := false }
  constructor
  · let call := (gateway {} tornOnce).call (.describeVolumes "us-east-1" []) 0.0 wire
    obtain ⟨trace, records, hruns, hrequests, hids⟩ := exists_runs_of_finish call wire
      (List.map (Option.map RemoteVolume.volumeId)) (b := [some "1", some "2"]) (n := 4)
      (by decide +kernel) (by decide +kernel)
    exact ⟨trace, records, hruns, hrequests, hids,
      (describes_listed {} tornOnce "us-east-1" 0.0 wire trace).1 [] _ hruns⟩
  · let call := (gateway {} tornOnce).call (.describeSnapshots "us-east-1" none none) 0.0 wire
    obtain ⟨trace, records, hruns, hrequests, hids⟩ := exists_runs_of_finish call wire
      (List.map (Option.map RemoteSnapshot.snapshotId)) (b := [some "1", some "2"]) (n := 4)
      (by decide +kernel) (by decide +kernel)
    exact ⟨trace, records, hruns, hrequests, hids,
      (describes_listed {} tornOnce "us-east-1" 0.0 wire trace).2 none none _ hruns⟩

end Ec2

end BlockStorage
