import BlockStorage.Proofs.Log.Memory

/-!
# What a key tells apart

A rate limit knows an entry with an event by one text: its event, its condition
and the four fields of its resource, with a colon between each two. The fields are
written as they are, so a colon in a field looks like one between two fields.

What the key does not tell is in which field a colon stands, and nothing else is
lost: where two entries have one key and as many colons in each field, all their
fields are the same. The key does tell how many colons there are in all. So if
only one field may hold colons, nothing is lost. If two may, a colon can be moved
from one to the other, and entries about different resources silence each other.

* `joined_inj`: what a joined text says of its parts.
* `SameSubject`: entries of one event, condition and resource.
* `sameSubject_iff`: what has to be known besides the key.
* `passed_before`: why an entry is dropped.
* `keys_separate_iff`: when keys tell entries apart.
-/

namespace BlockStorage

/-! ## Joined texts -/

section

variable {sep : Char}

/-- Two lists that are equal are equal on both sides of a separator, if as many stand before it. -/
theorem split_at_count {a b x y : List Char} (hcount : a.count sep = b.count sep)
    (h : a ++ sep :: x = b ++ sep :: y) : a = b ∧ x = y := by
  induction a generalizing b with
  | nil =>
    cases b with
    | nil => exact ⟨rfl, (List.cons.inj h).2⟩
    | cons c b =>
      obtain ⟨rfl, -⟩ := List.cons.inj h
      simp at hcount
  | cons c a ih =>
    cases b with
    | nil =>
      obtain ⟨rfl, -⟩ := List.cons.inj h
      simp at hcount
    | cons d b =>
      obtain ⟨rfl, hrest⟩ := List.cons.inj h
      have hrestCount : a.count sep = b.count sep := by
        rw [List.count_cons, List.count_cons] at hcount
        exact Nat.add_right_cancel hcount
      obtain ⟨rfl, rfl⟩ := ih hrestCount hrest
      exact ⟨rfl, rfl⟩

/-- The separators of a joined text are those of its parts and those between them. -/
theorem count_joined {parts : List (List Char)} (h : parts ≠ []) :
    ([sep].intercalate parts).count sep + 1 = parts.flatten.count sep + parts.length := by
  induction parts with
  | nil => exact absurd rfl h
  | cons a parts ih =>
    cases parts with
    | nil => simp
    | cons b parts =>
      have hrest := ih (List.cons_ne_nil b parts)
      rw [List.intercalate_cons_cons, List.count_append, List.count_append,
        List.count_singleton_self, List.flatten_cons, List.count_append, List.length_cons]
      omega

/-- **Joined texts are equal in all parts if each part has as many separators.** -/
theorem joined_inj {as bs : List (List Char)}
    (hcount : as.map (·.count sep) = bs.map (·.count sep))
    (h : [sep].intercalate as = [sep].intercalate bs) : as = bs := by
  induction as generalizing bs with
  | nil => exact (List.map_eq_nil_iff.mp hcount.symm).symm
  | cons a as ih =>
    cases bs with
    | nil => exact absurd hcount (List.cons_ne_nil _ _)
    | cons b bs =>
      obtain ⟨hfirst, hothers⟩ := List.cons.inj hcount
      cases as with
      | nil =>
        obtain rfl := List.map_eq_nil_iff.mp hothers.symm
        rw [List.intercalate_singleton, List.intercalate_singleton] at h
        rw [h]
      | cons a' as =>
        cases bs with
        | nil => exact absurd hothers (List.cons_ne_nil _ _)
        | cons b' bs =>
          rw [List.intercalate_cons_cons, List.intercalate_cons_cons, List.append_assoc,
            List.append_assoc] at h
          obtain ⟨rfl, hrest⟩ := split_at_count hfirst h
          rw [ih hothers hrest]

end

namespace RateLimit

/-! ## The fields of a key -/

variable {a b e : LogEntry} {loose : String → Prop} {k : String} {now : Float}

/-- What a key is made of, in its order: the event, the condition and the resource. -/
def keyFields : List String := "event" :: "condition" :: resourceFields

/-- The text of a field; one that is not there counts as the empty text. -/
def fieldText (e : LogEntry) (field : String) : String :=
  ((e.extra.get? field).map Datum.plain).getD ""

/-- How many colons stand in a field. -/
def colons (e : LogEntry) (field : String) : Nat := (fieldText e field).toList.count ':'

/-- An entry that carries an event. -/
def HasEvent (e : LogEntry) : Prop := ∃ event, e.extra.get? "event" = some event ∧ event ≠ .null

/-- Entries of one event and condition, about one resource. -/
def SameSubject (a b : LogEntry) : Prop := ∀ f ∈ keyFields, fieldText a f = fieldText b f

/-- The fields of an entry put together. -/
def keyText (e : LogEntry) : String := ":".intercalate (keyFields.map (fieldText e))

theorem key_of_hasEvent (h : HasEvent e) : key e = .ok (keyText e) := by
  obtain ⟨event, hevent, hgiven⟩ := h
  have hfirst : fieldText e "event" = event.plain := by
    rw [fieldText, hevent]
    rfl
  have hfields : keyFields.map (fieldText e) =
      event.plain :: ("condition" :: resourceFields).map (fieldText e) := by
    rw [keyFields, List.map_cons, hfirst]
  rw [key, key?, hevent, keyText, hfields]
  cases event with
  | null => exact absurd rfl hgiven
  | _ => rfl

theorem keyText_toList (e : LogEntry) :
    (keyText e).toList = [':'].intercalate (keyFields.map fun f => (fieldText e f).toList) := by
  rw [keyText, String.toList_intercalate, List.map_map]
  rfl

/-- The colons of a key are those of its fields and those between them. -/
theorem count_keyText (e : LogEntry) :
    (keyText e).toList.count ':' + 1 =
      (keyFields.flatMap fun f => (fieldText e f).toList).count ':' + keyFields.length := by
  have hgiven : (keyFields.map fun f => (fieldText e f).toList) ≠ [] := List.cons_ne_nil _ _
  rw [keyText_toList, count_joined hgiven, List.length_map, List.flatMap]

/-- **A key tells all but where the colons stand.** -/
theorem sameSubject_iff :
    SameSubject a b ↔ keyText a = keyText b ∧ ∀ f ∈ keyFields, colons a f = colons b f := by
  constructor
  · intro hsame
    refine ⟨?_, fun f hf => by rw [colons, colons, hsame f hf]⟩
    rw [keyText, keyText, List.map_congr_left hsame]
  · rintro ⟨hkey, hcolons⟩ f hf
    have hlists := congrArg String.toList hkey
    rw [keyText_toList, keyText_toList] at hlists
    have hcount : (keyFields.map fun f => (fieldText a f).toList).map (·.count ':') =
        (keyFields.map fun f => (fieldText b f).toList).map (·.count ':') := by
      rw [List.map_map, List.map_map]
      exact List.map_congr_left hcolons
    have hfields := List.map_inj_left.mp (joined_inj hcount hlists) f hf
    exact String.toList_inj.mp hfields

/-! ## Where colons may stand -/

/-- An entry with an event, of which only loose fields hold colons. -/
structure Confined (loose : String → Prop) (e : LogEntry) : Prop where
  event : HasEvent e
  free : ∀ f ∈ keyFields, ¬ loose f → ':' ∉ (fieldText e f).toList

/-- No two fields are loose. -/
def AtMostOne (loose : String → Prop) : Prop :=
  ∀ f ∈ keyFields, ∀ g ∈ keyFields, loose f → loose g → f = g

theorem nodup_keyFields : keyFields.Nodup := by decide

/-- If no other field holds colons, a field has all that do not stand between two fields. -/
theorem colons_of_others_free {f : String} (hf : f ∈ keyFields)
    (hfree : ∀ g ∈ keyFields, g ≠ f → ':' ∉ (fieldText e g).toList) :
    (keyText e).toList.count ':' + 1 = colons e f + keyFields.length := by
  obtain ⟨front, back, hsplit⟩ := List.append_of_mem hf
  have hnodup : (front ++ f :: back).Nodup := hsplit ▸ nodup_keyFields
  have hnone : ∀ gs ⊆ keyFields, f ∉ gs →
      (gs.flatMap fun g => (fieldText e g).toList).count ':' = 0 := by
    intro gs hgs hother
    refine List.count_eq_zero_of_not_mem fun hmem => ?_
    obtain ⟨g, hg, hcolon⟩ := List.mem_flatMap.mp hmem
    exact hfree g (hgs hg) (fun hsame => hother (hsame ▸ hg)) hcolon
  obtain ⟨-, htail, hapart⟩ := List.nodup_append.mp hnodup
  have hfront := hnone front (fun g hg => hsplit ▸ List.mem_append_left _ hg) fun hmem =>
    hapart f hmem f List.mem_cons_self rfl
  have hback := hnone back
    (fun g hg => hsplit ▸ List.mem_append_right _ (List.mem_cons_of_mem f hg))
    (List.nodup_cons.mp htail).1
  have htotal : (keyFields.flatMap fun g => (fieldText e g).toList).count ':' = colons e f := by
    rw [hsplit, List.flatMap_append, List.flatMap_cons, List.count_append, List.count_append,
      hfront, hback, Nat.zero_add, Nat.add_zero]
    rfl
  rw [count_keyText, htotal]

/-- If one field is loose, the key tells how many colons stand in it. -/
theorem colons_eq_of_atMostOne (hone : AtMostOne loose) (ha : Confined loose a)
    (hb : Confined loose b) (hkey : keyText a = keyText b) :
    ∀ f ∈ keyFields, colons a f = colons b f := by
  intro f hf
  by_cases hloose : loose f
  · have htight : ∀ g ∈ keyFields, g ≠ f → ¬ loose g := fun g hg hne hlooseG =>
      hne (hone g hg f hf hlooseG hloose)
    have hcountA := colons_of_others_free hf fun g hg hne => ha.free g hg (htight g hg hne)
    have hcountB := colons_of_others_free hf fun g hg hne => hb.free g hg (htight g hg hne)
    rw [hkey, hcountB] at hcountA
    exact (Nat.add_right_cancel hcountA).symm
  · rw [colons, colons, List.count_eq_zero_of_not_mem (ha.free f hf hloose),
      List.count_eq_zero_of_not_mem (hb.free f hf hloose)]

theorem keyText_eq_iff (hone : AtMostOne loose) (ha : Confined loose a) (hb : Confined loose b) :
    keyText a = keyText b ↔ SameSubject a b :=
  ⟨fun hkey => sameSubject_iff.mpr ⟨hkey, colons_eq_of_atMostOne hone ha hb hkey⟩,
    fun hsame => (sameSubject_iff.mp hsame).1⟩

/-- An entry without an event, with fewer colons in its place and message than there are between
the fields of a key. -/
def Terse (e : LogEntry) : Prop :=
  ¬ HasEvent e ∧ ∀ k, key e = .ok k → k.toList.count ':' + 1 < keyFields.length

theorem Terse.key_ne (ha : Terse a) (b : LogEntry) : key a ≠ .ok (keyText b) := by
  intro hkey
  have hfew := ha.2 _ hkey
  rw [count_keyText] at hfew
  omega

/-! ## Why an entry is dropped -/

theorem hasKey_of_dropped {r : RateLimit} (h : (r.filter now e).1 = .ok none) :
    ∃ k, HasKey e k := by
  rw [filter] at h
  split at h
  · cases h
  · next level hlevel =>
    split at h
    · cases h
    · next hgrave =>
      split at h
      · cases h
      · next k hkey => exact ⟨k, level, hlevel, Int.not_le.mp hgrave, hkey⟩

theorem fst_mem_of_answered {r : RateLimit} {fed : List (Float × LogEntry)}
    {x : (Float × LogEntry) × Except Fault (Option LogEntry)} (hx : x ∈ r.answered fed) :
    x.1 ∈ fed := by
  induction fed generalizing r with
  | nil => cases hx
  | cons f fed ih =>
    rw [answered] at hx
    split at hx
    · rcases List.mem_cons.mp hx with rfl | hx
      · exact List.mem_cons_self
      · exact List.mem_cons_of_mem f (ih hx)
    · exact List.mem_cons_of_mem f (ih hx)

/-- What a log tells of is among the answers. -/
theorem exists_answer {log : List Heard} {h : Heard}
    {answers : List ((Float × LogEntry) × Except Fault (Option LogEntry))}
    (htells : List.Forall₂ Heard.Tells log answers) (hh : h ∈ log) :
    ∃ x ∈ answers, h.Tells x := by
  induction htells with
  | nil => cases hh
  | @cons h' x' log answers hfirst _ ih =>
    rcases List.mem_cons.mp hh with rfl | hh
    · exact ⟨x', List.mem_cons_self, hfirst⟩
    · obtain ⟨x, hx, htells⟩ := ih hh
      exact ⟨x, List.mem_cons_of_mem x' hx, htells⟩

/-- **An entry is dropped because one of its key passed less than a window before.** -/
theorem passed_before {window : Float} {capacity : Nat} {fed : List (Float × LogEntry)}
    (hk : HasKey e k)
    (hdropped : ((({ window, capacity } : RateLimit).feed fed).filter now e).1 = .ok none) :
    ∃ x ∈ ({ window, capacity } : RateLimit).answered fed,
      HasKey x.1.2 k ∧ (∃ shown, x.2 = .ok (some shown)) ∧ now - x.1.1 < window := by
  obtain ⟨hwindow, -, hr⟩ := remembers_feed window capacity fed
  obtain ⟨-, t, hpass, hrecent⟩ := (hr.dropped_iff hk).mp hdropped
  rw [hwindow] at hrecent
  obtain ⟨h, hlast, rfl⟩ := Option.map_eq_some_iff.mp hpass
  obtain ⟨hmem, hheard⟩ := List.mem_filter.mp (List.mem_of_getLast? hlast)
  obtain ⟨rfl, hpassed⟩ := of_decide_eq_true hheard
  obtain ⟨x, hx, htells⟩ := exists_answer (tells_history window capacity fed) hmem
  refine ⟨x, hx, htells.key, ?_, htells.time ▸ hrecent⟩
  cases hpassage : h.passage with
  | dropped => exact absurd hpassage hpassed
  | passed n =>
    have hshown := htells.shown
    rw [hpassage] at hshown
    exact ⟨_, hshown⟩

/-- An entry that a limit hears first silences the next one of its key. -/
theorem second_dropped {window t : Float} {capacity : Nat} (ha : HasKey a k) (hb : HasKey b k)
    (hroom : 0 < capacity) (hrecent : now - t < window) :
    ((({ window, capacity } : RateLimit).feed [(t, a)]).filter now b).1 = .ok none := by
  obtain ⟨hwindow, hcapacity, hr⟩ := remembers_feed window capacity [(t, a)]
  have hnew : ¬ Repeats window capacity [] t k := by
    rintro ⟨-, s, hs, -⟩
    cases hs
  have hlog : history window capacity [(t, a)] = [⟨k, t, .passed (untold capacity [] k)⟩] := by
    have hconcat := history_concat window capacity [] (t, a)
    rw [sighting?_of_hasKey ha] at hconcat
    rw [← List.nil_append [(t, a)], hconcat]
    show [Heard.mk k t (verdict window capacity [] t k)] = _
    rw [verdict, if_neg hnew]
  rw [hr.dropped_iff hb, hwindow, hcapacity, hlog]
  refine ⟨?_, t, ?_, hrecent⟩
  · rw [recent, rtake_of_length_le (by simpa using Nat.succ_le_of_lt hroom)]
    simp
  · simp [lastPass?]

/-! ## What keys tell apart -/

/-- Entries with colons in loose fields alone have keys, and one key only if they are of one
subject. -/
def Separates (loose : String → Prop) : Prop :=
  ∀ a b, Confined loose a → Confined loose b →
    ∃ k l, key a = .ok k ∧ key b = .ok l ∧ (k = l ↔ SameSubject a b)

/-- Where all entries with an event have colons in loose fields alone, one that is dropped repeats
another: one of its subject passed less than a window before. -/
def DropsRepetitions (loose : String → Prop) : Prop :=
  ∀ (window : Float) (capacity : Nat) (fed : List (Float × LogEntry)) (now : Float) (e : LogEntry),
    (∀ f ∈ fed, Confined loose f.2 ∨ Terse f.2) → Confined loose e →
    ((({ window, capacity } : RateLimit).feed fed).filter now e).1 = .ok none →
    ∃ x ∈ ({ window, capacity } : RateLimit).answered fed,
      SameSubject x.1.2 e ∧ (∃ shown, x.2 = .ok (some shown)) ∧ now - x.1.1 < window

theorem AtMostOne.separates (hone : AtMostOne loose) : Separates loose := fun _ _ ha hb =>
  ⟨_, _, key_of_hasEvent ha.event, key_of_hasEvent hb.event, keyText_eq_iff hone ha hb⟩

theorem AtMostOne.dropsRepetitions (hone : AtMostOne loose) : DropsRepetitions loose := by
  intro window capacity fed now e hfed he hdropped
  obtain ⟨k, hk⟩ := hasKey_of_dropped hdropped
  obtain ⟨x, hx, ⟨_, _, _, hkey⟩, hpassed, hrecent⟩ := passed_before hk hdropped
  obtain ⟨_, _, _, hkey'⟩ := hk
  rw [key_of_hasEvent he.event] at hkey'
  obtain rfl := Except.ok.inj hkey'
  refine ⟨x, hx, ?_, hpassed, hrecent⟩
  rcases hfed x.1 (fst_mem_of_answered hx) with hconfined | hterse
  · rw [key_of_hasEvent hconfined.event] at hkey
    exact (keyText_eq_iff hone hconfined he).mp (Except.ok.inj hkey)
  · exact absurd hkey (hterse.key_ne e)

/-- An entry of some fields. -/
def entryOf (extra : Fields) : LogEntry where
  logger := ""
  level := 20
  path := ""
  line := 0
  template := .text ""
  created := .whole 0
  process := 1
  extra

/-- An entry with a colon in one field and nothing in the others. -/
def marked (field : String) : LogEntry :=
  entryOf (keyFields.map fun f => (f, .text (if f = field then ":" else "")))

theorem fieldText_marked (field : String) {f : String} (hf : f ∈ keyFields) :
    fieldText (marked field) f = if f = field then ":" else "" := by
  simp only [keyFields, resourceFields, List.mem_cons, List.not_mem_nil, or_false] at hf
  rcases hf with rfl | rfl | rfl | rfl | rfl | rfl <;> rfl

theorem confined_marked {field : String} (hloose : loose field) :
    Confined loose (marked field) where
  event := ⟨_, rfl, Datum.noConfusion⟩
  free f hf htight := by
    have hne : f ≠ field := fun hsame => htight (hsame ▸ hloose)
    rw [fieldText_marked field hf, if_neg hne]
    exact List.not_mem_nil

/-- In whichever field the colon stands, the key is the same. -/
theorem hasKey_marked {field : String} (hf : field ∈ keyFields) :
    HasKey (marked field) "::::::" := by
  refine ⟨20, rfl, by decide, ?_⟩
  simp only [keyFields, resourceFields, List.mem_cons, List.not_mem_nil, or_false] at hf
  rcases hf with rfl | rfl | rfl | rfl | rfl | rfl <;> rfl

theorem eq_of_sameSubject_marked {f g : String} (hf : f ∈ keyFields)
    (hsame : SameSubject (marked f) (marked g)) : f = g := by
  by_contra hne
  have htext := hsame f hf
  rw [fieldText_marked f hf, fieldText_marked g hf, if_pos rfl, if_neg hne] at htext
  exact absurd htext (by decide)

theorem Separates.atMostOne (h : Separates loose) : AtMostOne loose := by
  intro f hf g hg hlooseF hlooseG
  obtain ⟨k, l, hk, hl, hiff⟩ := h _ _ (confined_marked hlooseF) (confined_marked hlooseG)
  obtain ⟨_, _, _, hkey⟩ := hasKey_marked hf
  obtain ⟨_, _, _, hkey'⟩ := hasKey_marked hg
  refine eq_of_sameSubject_marked hf (hiff.mp ?_)
  exact (Except.ok.inj (hk.symm.trans hkey)).trans (Except.ok.inj (hl.symm.trans hkey')).symm

theorem DropsRepetitions.atMostOne (h : DropsRepetitions loose) : AtMostOne loose := by
  intro f hf g hg hlooseF hlooseG
  have hdropped : ((({} : RateLimit).feed [(0.0, marked f)]).filter 0.0 (marked g)).1 = .ok none :=
    second_dropped (hasKey_marked hf) (hasKey_marked hg) (by decide) (by decide +kernel)
  obtain ⟨x, hx, hsame, -⟩ := h _ _ _ _ _
    (fun _ hmem => .inl (by
      rw [List.mem_singleton.mp hmem]
      exact confined_marked hlooseF)) (confined_marked hlooseG) hdropped
  rw [List.mem_singleton.mp (fst_mem_of_answered hx)] at hsame
  exact eq_of_sameSubject_marked hf hsame

/-- What the keys of entries with an event tell, if colons stand in loose fields alone. -/
structure KeyLaw (loose : String → Prop) : Prop where
  /-- Besides the key it has to be known how many colons stand in each field. -/
  same_iff : ∀ a b, HasEvent a → HasEvent b →
    (SameSubject a b ↔ key a = key b ∧ ∀ f ∈ keyFields, colons a f = colons b f)
  separates_iff : Separates loose ↔ AtMostOne loose
  drops_iff : DropsRepetitions loose ↔ AtMostOne loose

/-- **Keys tell entries apart exactly if colons may stand in one field at most**, and only then is
each entry that is dropped a repetition. -/
theorem keys_separate_iff (loose : String → Prop) : KeyLaw loose where
  same_iff a b ha hb := by
    rw [key_of_hasEvent ha, key_of_hasEvent hb, Except.ok.injEq]
    exact sameSubject_iff
  separates_iff := ⟨Separates.atMostOne, AtMostOne.separates⟩
  drops_iff := ⟨DropsRepetitions.atMostOne, AtMostOne.dropsRepetitions⟩

/-- If colons stand in volume ids alone, keys tell entries apart. -/
theorem volume_ids_separate :
    AtMostOne (· = "volume_id") ∧ Separates (· = "volume_id") ∧
      DropsRepetitions (· = "volume_id") := by
  have hone : AtMostOne (· = "volume_id") := fun _ _ _ _ hf hg => hf.trans hg.symm
  obtain ⟨-, hseparates, hdrops⟩ := keys_separate_iff (· = "volume_id")
  exact ⟨hone, hseparates.mpr hone, hdrops.mpr hone⟩

/-- An entry that says that a volume was created from a snapshot. -/
def volumeCreated (volume snapshot : String) : LogEntry :=
  entryOf [("event", .text (Vocabulary.value LogEvent.volumeCreated)), ("volume_id", .text volume),
    ("snapshot_id", .text snapshot)]

/-- A colon at the end of one handle, or at the start of the next: two volumes, of which a rate
limit hears the first one only. -/
theorem moved_colon_silenced :
    let a := volumeCreated "us-east-1/vol-1:" "us-east-1/snap-1"
    let b := volumeCreated "us-east-1/vol-1" ":us-east-1/snap-1"
    HasEvent a ∧ HasEvent b ∧ key a = key b ∧ ¬ SameSubject a b ∧
      ((({} : RateLimit).feed [(0.0, a)]).filter 1.0 b).1 = .ok none := by
  intro a b
  have ha : HasKey a "volume_created::us-east-1/vol-1::us-east-1/snap-1::" :=
    ⟨20, rfl, by decide, rfl⟩
  have hb : HasKey b "volume_created::us-east-1/vol-1::us-east-1/snap-1::" :=
    ⟨20, rfl, by decide, rfl⟩
  refine ⟨⟨_, rfl, Datum.noConfusion⟩, ⟨_, rfl, Datum.noConfusion⟩, rfl, fun hsame => ?_,
    second_dropped ha hb (by decide) (by decide +kernel)⟩
  have hvolume : "us-east-1/vol-1:" = "us-east-1/vol-1" := hsame "volume_id" (by decide)
  exact absurd hvolume (by decide)

end RateLimit

end BlockStorage
