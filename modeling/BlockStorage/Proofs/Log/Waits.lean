import BlockStorage.Proofs.Lifecycle.Prompt
import BlockStorage.Proofs.Log.Key

/-!
# What waits log, and what becomes of it

A wait logs that it starts, before its first pause, and how it ended. These records
name the condition but no resource, so a rate limit takes those of two waits for one
condition for repetitions, whatever they wait for.

* `WaitEvent.key`: what a rate limit knows the record of an event by.
* `Wait.does_run_logs`: what a wait logs.
* `Wait.run_passes_iff`: which records of a second wait pass a rate limit that has
  heard the first one.
-/

namespace BlockStorage

/-! ## The keys of records -/

/-- A handler's entry of a record: of its level, with its fields. -/
structure LogEntry.Carries (e : LogEntry) (r : LogRecord) : Prop where
  level : e.level = r.level.rank
  extra : e.extra = r.extra

namespace WaitEvent

/-- What a logged event is and which condition it names. -/
def about? : WaitEvent → Option (LogEvent × String)
  | started c _ _ => some (.pollStarted, c)
  | satisfied c _ => some (.pollSatisfied, c)
  | timedOut c _ => some (.pollTimeout, c)
  | cancelled c _ => some (.pollCancelled, c)
  | failed c _ => some (.pollFailed, c)
  | _ => none

/-- What a rate limit knows the record of an event by. -/
def key (about : LogEvent × String) : String :=
  ":".intercalate [Vocabulary.value about.1, about.2, "", "", "", ""]

/-- Whether an event is logged, and below the level from which on records always pass. -/
def isMild (e : WaitEvent) : Bool := e.record?.any fun r => r.level ≠ .error

theorem isMild_about? {e : WaitEvent} (h : e.isMild = true) : ∃ about, e.about? = some about := by
  cases e with
  | started c | satisfied c | timedOut c | cancelled c => exact ⟨_, rfl⟩
  | slept | refreshing | ended | failed => cases h

theorem value_injective {a b : LogEvent} (h : Vocabulary.value a = Vocabulary.value b) : a = b := by
  have hback : ∀ c : LogEvent, Vocabulary.ofValue? (Vocabulary.value c) = some c := by
    intro c
    cases c <;> decide
  exact Option.some.inj ((hback a).symm.trans ((congrArg Vocabulary.ofValue? h).trans (hback b)))

theorem colon_not_mem_value (e : LogEvent) : ':' ∉ (Vocabulary.value e).toList := by
  cases e <;> decide

theorem key_toList (about : LogEvent × String) :
    (key about).toList =
      (Vocabulary.value about.1).toList ++ ':' :: (about.2.toList ++ "::::".toList) := by
  simp [key]

/-- **Records of waits have one key only if they are of one event and one condition.** -/
theorem key_injective {a b : LogEvent × String} (h : key a = key b) : a = b := by
  have hlists := congrArg String.toList h
  rw [key_toList, key_toList] at hlists
  -- Neither event holds a colon, so both lists are split at the same one.
  have hcount :
      (Vocabulary.value a.1).toList.count ':' = (Vocabulary.value b.1).toList.count ':' := by
    rw [List.count_eq_zero_of_not_mem (colon_not_mem_value _),
      List.count_eq_zero_of_not_mem (colon_not_mem_value _)]
  obtain ⟨hevent, hrest⟩ := split_at_count hcount hlists
  have hcondition := String.toList_inj.mp (List.append_cancel_right hrest)
  exact Prod.ext (value_injective (String.toList_inj.mp hevent)) hcondition

theorem key?_record {e : WaitEvent} {r : LogRecord} {about : LogEvent × String}
    (hr : e.record? = some r) (habout : e.about? = some about) :
    RateLimit.key? r.extra = some (key about) := by
  cases e with
  | started | satisfied | timedOut | cancelled | failed =>
    obtain rfl := Option.some.inj hr
    obtain rfl := Option.some.inj habout
    rfl
  | _ => cases hr

theorem record?_isSome {e : WaitEvent} {about : LogEvent × String} (h : e.about? = some about) :
    e.record?.isSome = true := by
  cases e with
  | started | satisfied | timedOut | cancelled | failed => rfl
  | _ => cases h

/-- The event that is logged. -/
def event? (e : WaitEvent) : Option LogEvent := e.about?.map (·.1)

section

variable {e : WaitEvent} {r : LogRecord} {entry : LogEntry} {now : Float}

theorem levelOf_entry (hr : e.record? = some r) (hc : entry.Carries r) :
    RateLimit.levelOf entry = .ok (r.level.rank : Int) := by
  have hproperty : entry.property "levelno" = .int entry.level := by
    rw [LogEntry.property, LogEntry.property?, hc.extra]
    cases e with
    | started | satisfied | timedOut | cancelled | failed =>
      obtain rfl := Option.some.inj hr
      rfl
    | _ => cases hr
  rw [RateLimit.levelOf, hproperty, hc.level]

/-- What the entry of a wait's record leaves behind in a rate limit. -/
theorem sighting?_entry (hr : e.record? = some r) (hc : entry.Carries r) :
    RateLimit.sighting? (now, entry) =
      if e.isMild then some ⟨e.about?.elim "" key, now, 0⟩ else none := by
  have hkey : ∀ about, e.about? = some about → RateLimit.key entry = .ok (key about) := by
    intro about habout
    rw [RateLimit.key, hc.extra, key?_record hr habout]
  rw [RateLimit.sighting?, levelOf_entry hr hc]
  cases e with
  | started | satisfied | timedOut | cancelled | failed =>
    obtain rfl := Option.some.inj hr
    rw [hkey _ rfl]
    rfl
  | _ => cases hr

end

end WaitEvent

/-! ## What a wait logs -/

namespace Wait

variable {τ : Type} [Viewed τ]

/-- What a wait may log: that it starts, and how it ended. -/
def Logs (w : Wait τ) (es : List WaitEvent) : Prop :=
  ∃ ending attempts, es = (w.report? attempts ending).toList ∨
    es = .started w.condition w.attempts w.delay :: (w.report? attempts ending).toList

theorem report?_about? {w : Wait τ} {attempts : Nat} {ending : Ending τ} {e : WaitEvent}
    (h : w.report? attempts ending = some e) :
    ∃ event, event ≠ .pollStarted ∧ e.about? = some (event, w.condition) := by
  cases ending with
  | ready last =>
    rw [report?] at h
    split at h
    · cases h
    · obtain rfl := Option.some.inj h
      exact ⟨.pollSatisfied, by decide, rfl⟩
  | gone => cases h
  | exhausted last =>
    obtain rfl := Option.some.inj h
    exact ⟨.pollTimeout, by decide, rfl⟩
  | failedState last =>
    obtain rfl := Option.some.inj h
    exact ⟨.pollFailed, by decide, rfl⟩
  | stopped why =>
    cases why with
    | pollCancelled =>
      obtain rfl := Option.some.inj h
      exact ⟨.pollCancelled, by decide, rfl⟩
    | remoteFailure =>
      obtain rfl := Option.some.inj h
      exact ⟨.pollFailed, by decide, rfl⟩
    | _ => cases h

namespace Logs

variable {w : Wait τ} {es : List WaitEvent}

theorem about? (h : w.Logs es) : ∀ e ∈ es, ∃ event, e.about? = some (event, w.condition) := by
  obtain ⟨ending, attempts, hes⟩ := h
  have hend : ∀ e ∈ (w.report? attempts ending).toList,
      ∃ event, e.about? = some (event, w.condition) := by
    intro e he
    obtain ⟨event, -, habout⟩ := report?_about? (Option.mem_toList.mp he)
    exact ⟨event, habout⟩
  rcases hes with rfl | rfl
  · exact hend
  · intro e he
    rcases List.mem_cons.mp he with rfl | he
    · exact ⟨.pollStarted, rfl⟩
    · exact hend e he

/-- No event is logged twice. -/
theorem nodup (h : w.Logs es) : (es.map WaitEvent.about?).Nodup := by
  obtain ⟨ending, attempts, hes⟩ := h
  cases hr : w.report? attempts ending with
  | none =>
    rw [hr] at hes
    rcases hes with rfl | rfl
    · exact List.nodup_nil
    · exact List.nodup_singleton _
  | some last =>
    obtain ⟨event, hne, habout⟩ := report?_about? hr
    rw [hr] at hes
    rcases hes with rfl | rfl
    · exact List.nodup_singleton _
    · refine List.nodup_cons.mpr ⟨?_, List.nodup_singleton _⟩
      rw [Option.toList_some, List.map_singleton, List.mem_singleton, habout]
      intro hsame
      exact hne (congrArg Prod.fst (Option.some.inj hsame)).symm

end Logs

section Does

variable {ε γ : Type} {keep : ε → Bool} {report : WaitEvent → ε} {refresh : τ → Run (World ε γ) τ}

/-- The looking logs nothing but that it starts. -/
theorem does_loop_starts (w : Wait τ) (hlogged : ∀ e, keep (report e) = e.record?.isSome)
    (hquiet : ∀ t, Does keep (refresh t).run fun es _ => es = []) (left used : Nat) (last : τ) :
    Does keep (w.loop report refresh left used last) fun es _ =>
      es = [] ∨ used = 0 ∧ es = [report (.started w.condition w.attempts w.delay)] := by
  induction left generalizing used last with
  | zero =>
    rw [loop]
    split
    · exact .pure _ (.inl rfl)
    · split <;> exact .pure _ (.inl rfl)
  | succ left ih =>
    rw [loop]
    split
    · exact .pure _ (.inl rfl)
    · split
      · exact .pure _ (.inl rfl)
      · refine .ite_bind (P := fun es _ => es = []) (.bind ((does_pause (hlogged _)).mono ?_))
          (fun hused => .note _ fun fs r hfs => .inr ⟨hused, ?_⟩) fun _ _ _ hfs => .inl hfs
        · rintro _ cut rfl
          cases cut with
          | true => exact .pure _ rfl
          | false =>
            refine .bind ((does_report (hlogged _)).mono ?_)
            rintro _ _ rfl
            refine .bind ((hquiet last).mono ?_)
            rintro _ r rfl
            cases r with
            | ok state =>
              -- a later look has been announced
              refine (ih (used + 1) state).mono fun es _ hes => ?_
              rcases hes with rfl | ⟨hzero, -⟩
              · rfl
              · exact absurd hzero (Nat.succ_ne_zero used)
            | error why =>
              dsimp only
              split <;> exact .pure _ rfl
        · rw [hfs, List.append_nil]
          exact List.filter_cons_of_pos (hlogged _)

/-- **What a wait logs.** -/
theorem does_run_logs (w : Wait τ) (hlogged : ∀ e, keep (report e) = e.record?.isSome)
    (hquiet : ∀ t, Does keep (refresh t).run fun es _ => es = []) (first : τ) :
    Does keep (w.run report refresh first).run fun es _ =>
      ∃ logs, w.Logs logs ∧ es = logs.map report := by
  rw [run]
  refine .run_bind (.run_get fun world => ?_)
  refine .run_bind (.run_lift ?_)
  refine (does_loop_starts w hlogged hquiet _ 0 first).mono fun es r hes => ?_
  refine (does_conclude w (fun _ _ _ => hlogged _) _ r.1 r.2).mono ?_
  rintro _ _ ⟨rfl, -⟩
  have hend : ((w.report? r.2 r.1).toList.map report).filter keep =
      (w.report? r.2 r.1).toList.map report := by
    refine List.filter_eq_self.mpr fun e he => ?_
    obtain ⟨x, hx, rfl⟩ := List.mem_map.mp he
    obtain ⟨event, -, habout⟩ := report?_about? (Option.mem_toList.mp hx)
    rw [hlogged]
    exact WaitEvent.record?_isSome habout
  rw [hend]
  rcases hes with rfl | ⟨-, rfl⟩
  · exact ⟨_, ⟨r.1, r.2, .inl rfl⟩, rfl⟩
  · exact ⟨_, ⟨r.1, r.2, .inr rfl⟩, rfl⟩

end Does

/-! ## What a rate limit makes of it -/

/-- What a rate limit still knows of what it has heard, each with its time. -/
def lately (capacity : Nat) (heard : List (Float × WaitEvent)) : List (Float × WaitEvent) :=
  let mild := heard.filter (·.2.isMild)
  mild.drop (mild.length - capacity)

/-- What is left behind of an event that was heard. -/
def sighting (h : Float × WaitEvent) : Sighting := ⟨h.2.about?.elim "" WaitEvent.key, h.1, 0⟩

section

variable {w : Wait τ} {logs : List WaitEvent} {heard : List (Float × WaitEvent)}
  {entry : WaitEvent → LogEntry} {limit : RateLimit} {e : WaitEvent}

theorem sightings_eq (hentry : ∀ e r, e.record? = some r → (entry e).Carries r)
    (hlogged : ∀ h ∈ heard, h.2.record?.isSome = true) :
    (heard.map fun h => (h.1, entry h.2)).filterMap RateLimit.sighting? =
      (heard.filter (·.2.isMild)).map sighting := by
  induction heard with
  | nil => rfl
  | cons h heard ih =>
    obtain ⟨r, hr⟩ := Option.isSome_iff_exists.mp (hlogged h List.mem_cons_self)
    have hrest := ih fun x hx => hlogged x (List.mem_cons_of_mem h hx)
    rw [List.map_cons, List.filterMap_cons, WaitEvent.sighting?_entry hr (hentry _ _ hr), hrest]
    cases hmild : h.2.isMild with
    | true =>
      simp only [List.filter_cons, hmild]
      rfl
    | false =>
      simp only [List.filter_cons, hmild]
      rfl

theorem sighting_key_iff {x y : Float × WaitEvent} (hx : ∃ a, x.2.about? = some a)
    (hy : ∃ a, y.2.about? = some a) :
    (sighting x).key = (sighting y).key ↔ x.2.about? = y.2.about? := by
  obtain ⟨a, ha⟩ := hx
  obtain ⟨b, hb⟩ := hy
  rw [sighting, sighting, ha, hb]
  refine ⟨fun h => ?_, fun h => ?_⟩
  · rw [WaitEvent.key_injective h]
  · rw [Option.some.inj h]

/-- **A mild record passes unless one about the same event and condition has just been heard.** -/
theorem Logs.passes_iff (hw : w.Logs (heard.map (·.2))) (hempty : limit.seen = [])
    (hentry : ∀ e r, e.record? = some r → (entry e).Carries r) (hmild : e.isMild = true)
    (now : Float) :
    (limit.feed (heard.map fun h => (h.1, entry h.2))).Passes now (entry e) ↔
      ∀ h ∈ lately limit.capacity heard, h.2.about? = e.about? → ¬ now - h.1 < limit.window := by
  obtain ⟨about, habout⟩ := WaitEvent.isMild_about? hmild
  obtain ⟨r, hr⟩ := Option.isSome_iff_exists.mp (WaitEvent.record?_isSome habout)
  have habouts : ∀ h ∈ heard, ∃ a, h.2.about? = some a := fun h hh => by
    obtain ⟨event, ha⟩ := hw.about? h.2 (List.mem_map_of_mem hh)
    exact ⟨_, ha⟩
  have hsightings := sightings_eq hentry fun h hh => by
    obtain ⟨a, ha⟩ := habouts h hh
    exact WaitEvent.record?_isSome ha
  have hkeys : (((heard.filter (·.2.isMild)).map sighting).map (·.key)).Nodup := by
    have hnodup := hw.nodup
    rw [List.map_map] at hnodup ⊢
    refine List.Nodup.map_on (fun x hx y hy hsame => ?_) (hnodup.of_map.filter _)
    have hx' := (List.mem_filter.mp hx).1
    have hy' := (List.mem_filter.mp hy).1
    exact List.inj_on_of_nodup_map hnodup hx' hy'
      ((sighting_key_iff (habouts x hx') (habouts y hy')).mp hsame)
  have hs : RateLimit.sighting? (now, entry e) = some (sighting (now, e)) := by
    rw [WaitEvent.sighting?_entry hr (hentry _ _ hr), hmild]
    rfl
  have htrim : RateLimit.trim limit.capacity ((heard.filter (·.2.isMild)).map sighting) =
      (lately limit.capacity heard).map sighting := by
    rw [RateLimit.trim, lately, List.length_map, List.map_drop]
  rw [RateLimit.feed_passes_iff hempty (hsightings ▸ hkeys) hs, hsightings, htrim,
    List.forall_mem_map]
  refine forall₂_congr fun h hh => ?_
  have hheard : h ∈ heard := (List.mem_filter.mp (List.mem_of_mem_drop hh)).1
  rw [sighting_key_iff (habouts h hheard) ⟨about, habout⟩]
  rfl

end

section

variable {ε γ τ₁ τ₂ : Type} [Viewed τ₁] [Viewed τ₂] {keep : ε → Bool} {report : WaitEvent → ε}
  {refresh₁ : τ₁ → Run (World ε γ) τ₁} {refresh₂ : τ₂ → Run (World ε γ) τ₂}

/-- **A rate limit that has heard one wait drops a record of another one exactly if both are for
one condition** and the first one has just logged that event, whatever the two wait for. -/
theorem run_passes_iff (w₁ : Wait τ₁) (w₂ : Wait τ₂)
    (hlogged : ∀ e, keep (report e) = e.record?.isSome)
    (hquiet₁ : ∀ t, Does keep (refresh₁ t).run fun es _ => es = [])
    (hquiet₂ : ∀ t, Does keep (refresh₂ t).run fun es _ => es = []) (first₁ : τ₁) (first₂ : τ₂)
    {limit : RateLimit} (hempty : limit.seen = []) {entry : WaitEvent → LogEntry}
    (hentry : ∀ e r, e.record? = some r → (entry e).Carries r) :
    Does keep (w₁.run report refresh₁ first₁).run fun es₁ _ =>
      Does keep (w₂.run report refresh₂ first₂).run fun es₂ _ =>
        ∃ logs₁ logs₂ : List WaitEvent, es₁ = logs₁.map report ∧ es₂ = logs₂.map report ∧
          ∀ heard : List (Float × WaitEvent), heard.map (·.2) = logs₁ →
            ∀ e ∈ logs₂, e.isMild = true → ∀ now,
              ((limit.feed (heard.map fun h => (h.1, entry h.2))).Passes now (entry e) ↔
                ¬ (w₁.condition = w₂.condition ∧ ∃ h ∈ lately limit.capacity heard,
                  h.2.event? = e.event? ∧ now - h.1 < limit.window)) := by
  refine (does_run_logs w₁ hlogged hquiet₁ first₁).mono ?_
  rintro _ _ ⟨logs₁, hlogs₁, rfl⟩
  refine (does_run_logs w₂ hlogged hquiet₂ first₂).mono ?_
  rintro _ _ ⟨logs₂, hlogs₂, rfl⟩
  refine ⟨logs₁, logs₂, rfl, rfl, ?_⟩
  rintro heard rfl e he hmild now
  obtain ⟨event, habout⟩ := hlogs₂.about? e he
  rw [hlogs₁.passes_iff hempty hentry hmild now]
  have hsame : ∀ h ∈ lately limit.capacity heard,
      (h.2.about? = e.about? ↔ w₁.condition = w₂.condition ∧ h.2.event? = e.event?) := by
    intro h hh
    have hheard : h ∈ heard := (List.mem_filter.mp (List.mem_of_mem_drop hh)).1
    obtain ⟨event', habout'⟩ := hlogs₁.about? h.2 (List.mem_map_of_mem hheard)
    rw [WaitEvent.event?, WaitEvent.event?, habout, habout']
    simp only [Option.some.injEq, Prod.mk.injEq, Option.map_some]
    exact and_comm
  constructor
  · rintro hpasses ⟨hcondition, h, hh, hevent, hrecent⟩
    exact hpasses h hh ((hsame h hh).mpr ⟨hcondition, hevent⟩) hrecent
  · intro hnone h hh habouts hrecent
    obtain ⟨hcondition, hevent⟩ := (hsame h hh).mp habouts
    exact hnone ⟨hcondition, h, hh, hevent, hrecent⟩

end

end Wait

/-! ## Two volumes -/

/-- An entry of a record, from nowhere in particular. -/
def LogRecord.entry (r : LogRecord) : LogEntry where
  logger := r.logger
  level := r.level.rank
  path := ""
  line := 0
  template := .text r.message
  created := .whole 0
  process := 1
  extra := r.extra

/-- An entry of what a wait logs. -/
def WaitEvent.entry (e : WaitEvent) : LogEntry := (e.record?.getD ⟨.debug, "", "", []⟩).entry

theorem WaitEvent.entry_carries {e : WaitEvent} {r : LogRecord} (h : e.record? = some r) :
    e.entry.Carries r := by
  rw [WaitEvent.entry, h]
  exact ⟨rfl, rfl⟩

namespace Waiting

/-- A wait for a volume, as to create one. -/
def forVolume : Wait RemoteVolume where
  condition := "volume_available"
  attempts := 600
  delay := 1.0
  ready := RemoteVolume.isAvailable
  failed := RemoteVolume.isFailed

/-- A wait for an attachment. -/
def forAttachment : Wait RemoteAttachment where
  condition := "attachment_attached"
  attempts := 600
  delay := 1.0
  ready := RemoteAttachment.isAttached

/-- A volume that is being made in a zone. -/
def making (zone : String) : RemoteVolume :=
  ⟨"us-east-1", "vol-" ++ zone, 8.0, zone, .creating, [], none, none⟩

def attaching : RemoteAttachment := ⟨"vol-1", "i-1", "/dev/sdh", .attaching⟩

/-- A provider that makes one volume in each zone and names it by the zone. -/
def reply : (r : Request) → Except Fault r.Answer
  | .createVolume _ _ zone => .ok (making zone)
  | .describeVolumes _ ids =>
    .ok (ids.map fun id => some ⟨"us-east-1", id, 8.0, "", .available, [], none, none⟩)
  | _ => .error (.notFound "" none)

/-- The flows over that provider. -/
def flows : Lifecycle Unit where
  gateway := .prompt reply
  budgets := { maxAttempts := 600, delay := 1.0 }

/-- To create a volume in a zone. -/
def create (zone : String) : Operation :=
  .createVolume .null (.zonedVolume { zone, sizeGb := some 8.0 })

/-- A world in which one volume has been created, and then another. -/
def first : World Event Unit := ((flows.perform (create "us-east-1a")).run { remote := () }).2

def second : World Event Unit := ((flows.perform (create "us-east-1b")).run first).2

/-- The records of the waits in a journal. -/
def records (journal : List Event) : List LogRecord :=
  journal.filterMap fun
    | .wait e => e.record?
    | _ => none

end Waiting

/-- A wait for an attachment is heard after one for a volume, at any time. -/
theorem attachment_heard :
    let keep (e : WaitEvent) : Bool := e.record?.isSome
    let available (v : RemoteVolume) : Run (World WaitEvent Unit) RemoteVolume :=
      return { v with status := .available }
    let attached (a : RemoteAttachment) : Run (World WaitEvent Unit) RemoteAttachment :=
      return { a with status := .attached }
    (∀ v, Does keep (available v).run fun es _ => es = []) ∧
    (∀ a, Does keep (attached a).run fun es _ => es = []) ∧
    Does keep (Waiting.forVolume.run id available (Waiting.making "us-east-1a")).run fun es₁ _ =>
      Does keep (Waiting.forAttachment.run id attached Waiting.attaching).run fun es₂ _ =>
        ∀ heard : List (Float × WaitEvent), heard.map (·.2) = es₁ →
          ∀ e ∈ es₂, e.isMild = true → ∀ now,
            (({} : RateLimit).feed (heard.map fun h => (h.1, h.2.entry))).Passes now e.entry := by
  intro keep available attached
  have hvolume : ∀ v, Does keep (available v).run fun es _ => es = [] := fun v => .run_pure _ rfl
  have hattachment : ∀ a, Does keep (attached a).run fun es _ => es = [] := fun a => .run_pure _ rfl
  have hlogged : ∀ e : WaitEvent, keep (id e) = e.record?.isSome := fun _ => rfl
  have hempty : ({} : RateLimit).seen = [] := rfl
  refine ⟨hvolume, hattachment, ?_⟩
  refine (Wait.run_passes_iff Waiting.forVolume Waiting.forAttachment hlogged hvolume hattachment
    (Waiting.making "us-east-1a") Waiting.attaching hempty fun _ _ =>
      WaitEvent.entry_carries).mono fun _ _ h => h.mono ?_
  rintro _ _ ⟨logs₁, logs₂, rfl, rfl, hpasses⟩ heard hheard e he hmild now
  rw [List.map_id] at hheard he
  refine (hpasses heard hheard e he hmild now).mpr ?_
  rintro ⟨hsame, -⟩
  exact absurd hsame (by decide)

/-- Two volumes are created within the window of a rate limit that hears all that their waits log.
It drops the record that the second wait starts, though no wait for that volume was heard before. -/
theorem second_volume_silenced :
    let records := Waiting.records Waiting.second.journal
    let limit := ({} : RateLimit).feed ([0.0, 1.0].zip ((records.take 2).map LogRecord.entry))
    Waiting.first.now < limit.window ∧ (Waiting.records Waiting.first.journal).length = 2 ∧
      ∃ r, records[2]? = some r ∧ r.level ≠ .error ∧
        r.message = "Waiting for volume_available (budget 600 x 1.0s)" ∧
        ¬ limit.Passes Waiting.first.now r.entry := by
  have hdropped : ((Waiting.records Waiting.second.journal)[2]?.any fun r =>
      r.level ≠ .error ∧ r.message = "Waiting for volume_available (budget 600 x 1.0s)" ∧
        ((({} : RateLimit).feed ([0.0, 1.0].zip (((Waiting.records Waiting.second.journal).take
          2).map LogRecord.entry))).filter Waiting.first.now r.entry).1.toOption.any
            Option.isNone = true) = true := by
    decide +kernel
  obtain ⟨r, hr, hrest⟩ := (Option.any_eq_true _ _).mp hdropped
  obtain ⟨hlevel, hmessage, hnone⟩ := of_decide_eq_true hrest
  refine ⟨by decide +kernel, by decide +kernel, r, hr, hlevel, hmessage, ?_⟩
  rintro ⟨shown, hshown⟩
  rw [hshown] at hnone
  cases hnone

end BlockStorage
