import BlockStorage.Proofs.Log.RateLimit
import Mathlib.Data.List.Dedup
import Mathlib.Data.List.DropRight

/-!
# What a rate limit says of all it has heard

One list serves a rate limit for three things: it says when a key last passed,
how often it was dropped since, and which key is forgotten next. Here each of
the three is read off the whole log of what was heard before: the log is never
cut, and knows nothing of the list.

Every hearing of a key, dropped or not, makes it the latest. So the list is, in
its order, the keys that were heard last, and only the key at its front is ever
forgotten. That the list may be cut after each entry and not once at the end is
`recent_concat`.

* `Heard`: an entry below the gravest level, in the log.
* `recent`, `lastPass?`, `pending`: what the list holds, as a reading of the log.
* `verdict`: what becomes of an entry, as a reading of the log.
* `Remembers`: the list tells what the log tells.
* `Remembers.step`: one entry more.
* `drops_history`: what was dropped is what was reported and what is still to be.
* `tells_history`: the log tells what a limit answers.
* `feed_meaning`: what a limit remembers of any entries, and how it answers the next.
-/

namespace BlockStorage

/-- An entry that passes after so many were dropped. -/
def LogEntry.following (e : LogEntry) (dropped : Nat) : LogEntry :=
  if dropped = 0 then e else { e with extra := e.extra.put "suppressed" (.int dropped) }

namespace Passage

/-- What the handlers get of an entry. -/
def shown (e : LogEntry) : Passage → Option LogEntry
  | passed n => some (e.following n)
  | dropped => none

/-- The number that a passage reports. -/
def reported : Passage → Nat
  | passed n => n
  | dropped => 0

end Passage

namespace RateLimit

/-- An entry below the gravest level as it was heard, and what became of it. -/
structure Heard where
  key : String
  time : Float
  passage : Passage

variable {r : RateLimit} {log : List Heard} {h : Heard} {k key : String} {now : Float}
  {e : LogEntry} {s : Sighting} {level : Int}

/-! ## The log and what can be read off it -/

/-- The keys in the order in which each was heard last, as many as there is room for. -/
def recent (capacity : Nat) (log : List Heard) : List String :=
  (log.map (·.key)).dedup.rtake capacity

/-- When an entry of a key last passed. -/
def lastPass? (key : String) (log : List Heard) : Option Float :=
  ((log.filter fun h => h.key = key ∧ h.passage ≠ .dropped).getLast?).map (·.time)

/-- How many entries of a key were dropped since. -/
def pending (key : String) (log : List Heard) : Nat :=
  ((log.filter (·.key = key)).rtakeWhile (·.passage = .dropped)).length

/-- A key is remembered, and less than the window has gone by since it last passed. -/
def Repeats (window : Float) (capacity : Nat) (log : List Heard) (now : Float) (key : String) :
    Prop :=
  key ∈ recent capacity log ∧ ∃ t ∈ lastPass? key log, now - t < window

instance {window : Float} {capacity : Nat} : Decidable (Repeats window capacity log now key) := by
  unfold Repeats
  infer_instance

/-- The number that an entry reports if it passes. -/
def untold (capacity : Nat) (log : List Heard) (key : String) : Nat :=
  if key ∈ recent capacity log then pending key log else 0

/-- What becomes of an entry with this key, after all that is in the log. -/
def verdict (window : Float) (capacity : Nat) (log : List Heard) (now : Float) (key : String) :
    Passage :=
  if Repeats window capacity log now key then .dropped else .passed (untold capacity log key)

/-- The log of entries that came one after the other, each judged by the log before it. That a
limit judges them so is `tells_history`. -/
def history (window : Float) (capacity : Nat) (fed : List (Float × LogEntry)) : List Heard :=
  fed.foldl (fun log f => match sighting? f with
    | none => log
    | some s => log ++ [⟨s.key, f.1, verdict window capacity log f.1 s.key⟩]) []

theorem history_concat (window : Float) (capacity : Nat) (fed : List (Float × LogEntry))
    (f : Float × LogEntry) :
    history window capacity (fed ++ [f]) = match sighting? f with
      | none => history window capacity fed
      | some s => history window capacity fed
          ++ [⟨s.key, f.1, verdict window capacity (history window capacity fed) f.1 s.key⟩] := by
  rw [history, List.foldl_append]
  rfl

/-! ## One entry more in the log -/

theorem lastPass?_concat (key : String) (log : List Heard) (h : Heard) :
    lastPass? key (log ++ [h]) =
      if h.key = key ∧ h.passage ≠ .dropped then some h.time else lastPass? key log := by
  rw [lastPass?, List.filter_append, List.filter_cons, List.filter_nil]
  by_cases hpass : h.key = key ∧ h.passage ≠ .dropped
  · rw [if_pos hpass, if_pos (decide_eq_true hpass), List.getLast?_concat]
    rfl
  · rw [if_neg hpass, if_neg (by simpa using hpass), List.append_nil]
    rfl

theorem pending_concat (key : String) (log : List Heard) (h : Heard) :
    pending key (log ++ [h]) =
      if h.key = key then if h.passage = .dropped then pending key log + 1 else 0
      else pending key log := by
  rw [pending, List.filter_append, List.filter_cons, List.filter_nil]
  by_cases hkey : h.key = key
  · rw [if_pos hkey, if_pos (decide_eq_true hkey), List.rtakeWhile_concat]
    by_cases hdrop : h.passage = .dropped
    · rw [if_pos hdrop, if_pos (decide_eq_true hdrop), List.length_append]
      rfl
    · rw [if_neg hdrop, if_neg (by simpa using hdrop)]
      rfl
  · rw [if_neg hkey, if_neg (by simpa using hkey), List.append_nil]
    rfl

/-- A key that is heard again moves to the end. -/
theorem dedup_concat (ks : List String) (k : String) :
    (ks ++ [k]).dedup = ks.dedup.filter (· ≠ k) ++ [k] := by
  induction ks with
  | nil => simp
  | cons x ks ih =>
    rw [List.cons_append, List.dedup_cons, List.dedup_cons, ih]
    by_cases hx : x ∈ ks
    · rw [if_pos hx, if_pos (List.mem_append_left _ hx)]
    · by_cases hk : x = k
      · rw [if_pos (by simp [hk]), if_neg hx, List.filter_cons_of_neg (by simp [hk])]
      · rw [if_neg (by simp [hx, hk]), if_neg hx, List.filter_cons_of_pos (by simp [hk])]
        rfl

/-- To take a key out of a list without doubles shortens it by one at most. -/
theorem length_le_filter_ne {ks : List String} (hnodup : ks.Nodup) (k : String) :
    ks.length ≤ (ks.filter (· ≠ k)).length + 1 := by
  have herase : (ks.filter (· ≠ k)) = ks.erase k := by
    rw [hnodup.erase_eq_filter]
    exact List.filter_congr fun x _ => by by_cases hx : x = k <;> simp [hx]
  rw [herase, List.length_erase]
  split <;> omega

/-- The end of a list is that of its end, if this is long enough. -/
theorem rtake_append_of_le {α : Type} {c : Nat} (front : List α) {back : List α}
    (h : c ≤ back.length) : (front ++ back).rtake c = back.rtake c := by
  rw [List.rtake, List.rtake, List.drop_append, List.length_append,
    List.drop_eq_nil_of_le (by omega), List.nil_append]
  congr 1
  omega

theorem rtake_of_length_le {α : Type} {c : Nat} {l : List α} (h : l.length ≤ c) :
    l.rtake c = l := by
  rw [List.rtake, Nat.sub_eq_zero_of_le h, List.drop_zero]

/-- What was forgotten before is not missed when a key moves to the end: it makes room for itself,
or the key at the front goes. -/
theorem rtake_moved {ks : List String} (hnodup : ks.Nodup) (c : Nat) (k : String) :
    ((ks.rtake c).filter (· ≠ k) ++ [k]).rtake c = (ks.filter (· ≠ k) ++ [k]).rtake c := by
  rcases Nat.le_total ks.length c with hshort | hlong
  · rw [rtake_of_length_le hshort]
  · have hparts : ks = ks.take (ks.length - c) ++ ks.rtake c := (List.take_append_drop _ _).symm
    have hlength : (ks.rtake c).length = c := by
      rw [List.rtake, List.length_drop]
      omega
    have hroom := length_le_filter_ne (hnodup.sublist (List.drop_sublist (ks.length - c) ks)) k
    -- Behind what is forgotten stand `c` keys at least, whether `k` was among them or not.
    conv_rhs => rw [hparts, List.filter_append, List.append_assoc]
    refine (rtake_append_of_le _ ?_).symm
    rw [List.length_append, List.length_singleton]
    rw [← List.rtake, hlength] at hroom
    exact hroom

/-- The keys heard last, after one entry more. -/
theorem recent_concat (c : Nat) (log : List Heard) (h : Heard) :
    recent c (log ++ [h]) = ((recent c log).filter (· ≠ h.key) ++ [h.key]).rtake c := by
  rw [recent, recent, List.map_append, List.map_singleton, dedup_concat,
    rtake_moved (List.nodup_dedup _)]

theorem length_recent_le (c : Nat) (log : List Heard) : (recent c log).length ≤ c := by
  rw [recent, List.rtake, List.length_drop]
  omega

/-- A key that is remembered needs no room when it is heard again. -/
theorem recent_concat_of_mem {c : Nat} (hmem : h.key ∈ recent c log) :
    recent c (log ++ [h]) = (recent c log).filter (· ≠ h.key) ++ [h.key] := by
  have hshorter : ((recent c log).filter (· ≠ h.key)).length < (recent c log).length :=
    List.length_filter_lt_length_iff_exists.mpr ⟨h.key, hmem, by simp⟩
  have hroom := length_recent_le c log
  rw [recent_concat, rtake_of_length_le]
  rw [List.length_append, List.length_singleton]
  omega

/-! ## The list of a limit -/

/-- A limit remembers what the log tells: the keys heard last, in their order, and of each when it
last passed and how often it was dropped since. -/
structure Remembers (r : RateLimit) (log : List Heard) : Prop where
  keys : r.seen.map (·.key) = recent r.capacity log
  passedAt : ∀ s ∈ r.seen, lastPass? s.key log = some s.passedAt
  dropped : ∀ s ∈ r.seen, pending s.key log = s.dropped

namespace Remembers

variable (hr : Remembers r log)

include hr

/-- A limit that does not find a key has not heard it, or has forgotten it. -/
theorem find?_eq_none_iff : r.seen.find? (·.key = k) = none ↔ k ∉ recent r.capacity log := by
  rw [← hr.keys, List.find?_eq_none, List.mem_map]
  simp

theorem of_find? (hfind : r.seen.find? (·.key = k) = some s) :
    k ∈ recent r.capacity log ∧ lastPass? k log = some s.passedAt ∧ pending k log = s.dropped := by
  have hs := List.mem_of_find?_eq_some hfind
  have hkey : s.key = k := by simpa using List.find?_some hfind
  refine ⟨?_, hkey ▸ hr.passedAt s hs, hkey ▸ hr.dropped s hs⟩
  rw [← hr.keys, ← hkey]
  exact List.mem_map_of_mem hs

/-- What is pending of a key is what the limit has counted. -/
theorem untold_eq :
    untold r.capacity log k = ((r.seen.find? (·.key = k)).map (·.dropped)).getD 0 := by
  rw [untold]
  cases hfind : r.seen.find? (·.key = k) with
  | none => rw [if_neg (hr.find?_eq_none_iff.mp hfind)]; rfl
  | some s =>
    obtain ⟨hmem, -, hdropped⟩ := hr.of_find? hfind
    rw [if_pos hmem, hdropped]
    rfl

theorem repeats_iff :
    Repeats r.window r.capacity log now k ↔
      ∃ s, r.seen.find? (·.key = k) = some s ∧ now - s.passedAt < r.window := by
  constructor
  · rintro ⟨hmem, t, ht, hrecent⟩
    cases hfind : r.seen.find? (·.key = k) with
    | none => exact absurd hmem (hr.find?_eq_none_iff.mp hfind)
    | some s =>
      obtain ⟨-, hpass, -⟩ := hr.of_find? hfind
      obtain rfl := Option.some.inj (hpass.symm.trans ht)
      exact ⟨s, rfl, hrecent⟩
  · rintro ⟨s, hfind, hrecent⟩
    obtain ⟨hmem, hpass, -⟩ := hr.of_find? hfind
    exact ⟨hmem, s.passedAt, hpass, hrecent⟩

/-- The other keys are remembered as before. -/
theorem others (hs : s ∈ r.seen.filter (·.key ≠ h.key)) :
    lastPass? s.key (log ++ [h]) = some s.passedAt ∧ pending s.key (log ++ [h]) = s.dropped := by
  obtain ⟨hmem, hother⟩ := List.mem_filter.mp hs
  have hne : ¬ h.key = s.key := fun heq => (of_decide_eq_true hother) heq.symm
  rw [lastPass?_concat, pending_concat, if_neg fun hpass => hne hpass.1, if_neg hne]
  exact ⟨hr.passedAt s hmem, hr.dropped s hmem⟩

/-- The keys of the other sightings with one more behind them. -/
theorem keys_moved (hs : s.key = h.key) :
    (r.seen.filter (·.key ≠ h.key) ++ [s]).map (·.key) =
      (recent r.capacity log).filter (· ≠ h.key) ++ [h.key] := by
  rw [← hr.keys, List.map_append, List.map_singleton, hs, List.filter_map]
  rfl

/-- What a key is remembered with, at the end of the list, if the log tells the same. -/
theorem moved {seen : List Sighting} (hkeys : seen.map (·.key) = recent r.capacity (log ++ [h]))
    (hsub : seen ⊆ r.seen.filter (·.key ≠ h.key) ++ [s]) (hs : s.key = h.key)
    (hpass : lastPass? h.key (log ++ [h]) = some s.passedAt)
    (hpending : pending h.key (log ++ [h]) = s.dropped) :
    Remembers { r with seen } (log ++ [h]) where
  keys := hkeys
  passedAt t ht := by
    rcases List.mem_append.mp (hsub ht) with ht | ht
    · exact (hr.others ht).1
    · rw [List.mem_singleton.mp ht, hs, hpass]
  dropped t ht := by
    rcases List.mem_append.mp (hsub ht) with ht | ht
    · exact (hr.others ht).2
    · rw [List.mem_singleton.mp ht, hs, hpending]

/-- A key that passes is at the end, with nothing dropped since; the key at the front may go. -/
theorem passed (n : Nat) :
    Remembers { r with seen := trim r.capacity (r.seen.filter (·.key ≠ k) ++ [⟨k, now, 0⟩]) }
      (log ++ [⟨k, now, .passed n⟩]) := by
  refine hr.moved ?_ (trim_sublist _ _).subset rfl ?_ ?_
  · rw [recent_concat, ← hr.keys_moved (s := ⟨k, now, 0⟩) rfl, trim, List.rtake, List.map_drop,
      List.length_map]
  · rw [lastPass?_concat, if_pos ⟨rfl, Passage.noConfusion⟩]
  · rw [pending_concat, if_pos rfl, if_neg Passage.noConfusion]

/-- A key that is dropped is at the end, as it was but for the count. -/
theorem counted (hfind : r.seen.find? (·.key = k) = some s) :
    Remembers { r with seen := r.seen.filter (·.key ≠ k) ++ [{ s with dropped := s.dropped + 1 }] }
      (log ++ [⟨k, now, .dropped⟩]) := by
  obtain ⟨hmem, hpass, hpending⟩ := hr.of_find? hfind
  have hkey : s.key = k := by simpa using List.find?_some hfind
  refine hr.moved ?_ (List.Subset.refl _) hkey ?_ ?_
  · rw [recent_concat_of_mem hmem, ← hr.keys_moved (s := { s with dropped := s.dropped + 1 }) hkey]
  · rw [lastPass?_concat, if_neg fun h => h.2 rfl, hpass]
  · rw [pending_concat, if_pos rfl, if_pos rfl, hpending]

/-- **One entry more.** What becomes of it is what the log says, and what the limit remembers
after it is what the longer log tells. -/
theorem step (now : Float) (k : String) (hgrave : ¬ gravest ≤ level) :
    (r.step now level k).1 = verdict r.window r.capacity log now k ∧
      Remembers (r.step now level k).2
        (log ++ [⟨k, now, verdict r.window r.capacity log now k⟩]) := by
  rw [verdict, hr.untold_eq, RateLimit.step, if_neg hgrave]
  cases hfind : r.seen.find? (·.key = k) with
  | none =>
    have hnew : ¬ Repeats r.window r.capacity log now k := by
      rw [hr.repeats_iff, hfind]
      rintro ⟨s, hs, -⟩
      cases hs
    rw [if_neg hnew]
    exact ⟨rfl, hr.passed 0⟩
  | some s =>
    have hrepeats : Repeats r.window r.capacity log now k ↔ now - s.passedAt < r.window := by
      rw [hr.repeats_iff, hfind]
      simp
    dsimp only
    by_cases hrecent : now - s.passedAt < r.window
    · rw [if_pos hrecent, if_pos (hrepeats.mpr hrecent)]
      exact ⟨rfl, hr.counted hfind⟩
    · rw [if_neg hrecent, if_neg fun h => hrecent (hrepeats.mp h)]
      exact ⟨rfl, hr.passed s.dropped⟩

end Remembers

/-! ## The entries as they come -/

/-- What a limit does with an entry that has a key. -/
theorem filter_eq_step (h : sighting? (now, e) = some s) (r : RateLimit) :
    ∃ level, ¬ gravest ≤ level ∧
      r.filter now e =
        (.ok ((r.step now level s.key).1.shown e), (r.step now level s.key).2) := by
  obtain ⟨level, hlevel, hgrave, hkey, -⟩ := sighting?_eq_some h
  refine ⟨level, hgrave, ?_⟩
  rw [filter, hlevel]
  simp only [hgrave, if_false, hkey]
  cases hstep : r.step now level s.key with
  | mk passage after =>
    cases passage with
    | dropped => rfl
    | passed n => cases n <;> rfl

theorem step_window (r : RateLimit) (now : Float) (level : Int) (k : String) :
    (r.step now level k).2.window = r.window ∧ (r.step now level k).2.capacity = r.capacity := by
  rw [step]
  split
  · exact ⟨rfl, rfl⟩
  · dsimp only
    split
    · exact ⟨rfl, rfl⟩
    · split <;> exact ⟨rfl, rfl⟩

/-- A limit that started with nothing remembers what the log of its entries tells. -/
theorem remembers_feed (window : Float) (capacity : Nat) (fed : List (Float × LogEntry)) :
    (({ window, capacity } : RateLimit).feed fed).window = window ∧
      (({ window, capacity } : RateLimit).feed fed).capacity = capacity ∧
      Remembers (({ window, capacity } : RateLimit).feed fed) (history window capacity fed) := by
  -- Window and room never change, so the log is judged by those that the limit began with.
  induction fed using List.reverseRecOn with
  | nil =>
    refine ⟨rfl, rfl, ?_, ?_, ?_⟩
    · rw [history, List.foldl_nil, recent, List.map_nil, List.dedup_nil, List.rtake_nil]
      rfl
    · exact fun s hs => absurd hs List.not_mem_nil
    · exact fun s hs => absurd hs List.not_mem_nil
  | append_singleton fed f ih =>
    obtain ⟨hwindow, hcapacity, hr⟩ := ih
    rw [feed_concat, history_concat]
    cases hs : sighting? f with
    | none =>
      rw [filter_of_none hs]
      exact ⟨hwindow, hcapacity, hr⟩
    | some s =>
      obtain ⟨level, hgrave, hfilter⟩ :=
        filter_eq_step hs (({ window, capacity } : RateLimit).feed fed)
      obtain ⟨hw, hc⟩ := step_window (({ window, capacity } : RateLimit).feed fed) f.1 level s.key
      rw [hfilter]
      refine ⟨hw.trans hwindow, hc.trans hcapacity, ?_⟩
      have hstep := (hr.step f.1 s.key hgrave).2
      rwa [hwindow, hcapacity] at hstep

/-! ## What was dropped, and what was said of it -/

/-- How many entries of a key were dropped. -/
def drops (key : String) (log : List Heard) : Nat :=
  log.countP fun h => h.key = key ∧ h.passage = .dropped

/-- The sum of what was reported of a key. -/
def reports (key : String) (log : List Heard) : Nat :=
  ((log.filter (·.key = key)).map (·.passage.reported)).foldl (· + ·) 0

theorem drops_concat (key : String) (log : List Heard) (h : Heard) :
    drops key (log ++ [h]) =
      drops key log + if h.key = key ∧ h.passage = .dropped then 1 else 0 := by
  rw [drops, List.countP_append, List.countP_singleton]
  simp only [decide_eq_true_eq]
  rfl

theorem reports_concat (key : String) (log : List Heard) (h : Heard) :
    reports key (log ++ [h]) = reports key log + if h.key = key then h.passage.reported else 0 := by
  rw [reports, List.filter_append, List.filter_cons, List.filter_nil]
  by_cases hkey : h.key = key
  · rw [if_pos hkey, if_pos (decide_eq_true hkey), List.map_append, List.map_singleton,
      List.foldl_concat]
    rfl
  · rw [if_neg hkey, if_neg (by simpa using hkey), List.append_nil, Nat.add_zero]
    rfl

/-- How many different keys were heard. -/
def keyCount (log : List Heard) : Nat := (log.map (·.key)).dedup.length

theorem keyCount_le_concat (log : List Heard) (h : Heard) :
    keyCount log ≤ keyCount (log ++ [h]) := by
  rw [keyCount, keyCount, List.map_append, List.map_singleton, dedup_concat, List.length_append]
  exact length_le_filter_ne (List.nodup_dedup _) h.key

/-- With room for all keys none is forgotten. -/
theorem mem_recent_iff {c : Nat} (hroom : keyCount log ≤ c) :
    key ∈ recent c log ↔ key ∈ log.map (·.key) := by
  rw [recent, rtake_of_length_le hroom, List.mem_dedup]

theorem pending_of_unheard (hkey : key ∉ log.map (·.key)) : pending key log = 0 := by
  have hnone : log.filter (·.key = key) = [] :=
    List.filter_eq_nil_iff.mpr fun h hh hsame =>
      hkey (List.mem_map.mpr ⟨h, hh, of_decide_eq_true hsame⟩)
  rw [pending, hnone, List.rtakeWhile_nil, List.length_nil]

/-- With room for all keys, what an entry reports is all that is pending. -/
theorem untold_of_room {c : Nat} (hroom : keyCount log ≤ c) :
    untold c log key = pending key log := by
  rw [untold]
  split
  · rfl
  · next hforgotten =>
    exact (pending_of_unheard fun hkey => hforgotten ((mem_recent_iff hroom).mpr hkey)).symm

/-- One entry more is dropped and pending, or reports all that was pending. -/
theorem drops_step {window : Float} {capacity : Nat} (hroom : keyCount log ≤ capacity)
    (hlog : drops key log = reports key log + pending key log) (now : Float) (k : String) :
    drops key (log ++ [⟨k, now, verdict window capacity log now k⟩]) =
      reports key (log ++ [⟨k, now, verdict window capacity log now k⟩])
        + pending key (log ++ [⟨k, now, verdict window capacity log now k⟩]) := by
  rw [drops_concat, reports_concat, pending_concat, verdict, untold_of_room hroom]
  dsimp only
  by_cases hkey : k = key
  · subst hkey
    by_cases hrepeats : Repeats window capacity log now k
    · simp only [hrepeats, if_true, and_self, Passage.reported]
      omega
    · simp only [hrepeats, if_false, if_true, and_false, reduceCtorEq, Passage.reported]
      omega
  · simp only [hkey, if_false, false_and]
    omega

/-- **With room for all keys nothing dropped goes untold**: it was reported, or is pending. -/
theorem drops_history (window : Float) (capacity : Nat) (fed : List (Float × LogEntry))
    (key : String) (hroom : keyCount (history window capacity fed) ≤ capacity) :
    drops key (history window capacity fed) =
      reports key (history window capacity fed) + pending key (history window capacity fed) := by
  induction fed using List.reverseRecOn with
  | nil => rfl
  | append_singleton fed f ih =>
    rw [history_concat] at hroom ⊢
    cases hs : sighting? f with
    | none =>
      rw [hs] at hroom
      exact ih hroom
    | some s =>
      rw [hs] at hroom
      have hbefore := (keyCount_le_concat _ _).trans hroom
      exact drops_step hbefore (ih hbefore) f.1 s.key

/-! ## One answer -/

/-- An entry below the gravest level, with its key. -/
def HasKey (e : LogEntry) (k : String) : Prop :=
  ∃ level, levelOf e = .ok level ∧ level < gravest ∧ RateLimit.key e = .ok k

theorem sighting?_of_hasKey (hk : HasKey e k) (now : Float) :
    sighting? (now, e) = some ⟨k, now, 0⟩ := by
  obtain ⟨level, hlevel, hbelow, hkey⟩ := hk
  rw [sighting?, hlevel, hkey]
  exact if_neg (Int.not_le.mpr hbelow)

/-- How often the limit has counted a key as dropped. -/
def counted (r : RateLimit) (key : String) : Nat :=
  ((r.seen.find? (·.key = key)).map (·.dropped)).getD 0

/-- What a limit does with an entry, after all that is in the log. -/
structure Answers (r : RateLimit) (log : List Heard) (now : Float) (e : LogEntry) : Prop where
  /-- What is grave passes and leaves no trace. -/
  grave : ∀ level, levelOf e = .ok level → gravest ≤ level → r.filter now e = (.ok (some e), r)
  /-- So does what has no level or no key, but for its failure. -/
  levelless : ∀ f, levelOf e = .error f → r.filter now e = (.error f, r)
  keyless : ∀ level f, levelOf e = .ok level → level < gravest → RateLimit.key e = .error f →
    r.filter now e = (.error f, r)
  shown : ∀ k, HasKey e k →
    (r.filter now e).1 = .ok ((verdict r.window r.capacity log now k).shown e)
  dropped_iff : ∀ k, HasKey e k →
    ((r.filter now e).1 = .ok none ↔ Repeats r.window r.capacity log now k)
  /-- An entry that passes carries the number of those dropped before it, if there are any. -/
  carries_iff : ∀ k, HasKey e k → e.extra.get? "suppressed" = none →
    ∀ passed, (r.filter now e).1 = .ok (some passed) → ∀ d,
      passed.extra.get? "suppressed" = some d ↔
        k ∈ recent r.capacity log ∧ 0 < pending k log ∧ d = .int (pending k log)

/-- What an entry carries that came without a number. -/
theorem following_carries_iff (hnone : e.extra.get? "suppressed" = none) (n : Nat) (d : Datum) :
    (e.following n).extra.get? "suppressed" = some d ↔ 0 < n ∧ d = .int n := by
  rw [LogEntry.following]
  split
  · next hzero => simp [hnone, hzero]
  · next hsome =>
    rw [Table.get?_put, if_pos rfl, Option.some.injEq]
    exact ⟨fun h => ⟨Nat.pos_of_ne_zero hsome, h.symm⟩, fun h => h.2.symm⟩

namespace Remembers

theorem shown (hr : Remembers r log) (hk : HasKey e k) :
    (r.filter now e).1 = .ok ((verdict r.window r.capacity log now k).shown e) := by
  obtain ⟨level, hgrave, hfilter⟩ := filter_eq_step (sighting?_of_hasKey hk now) r
  rw [hfilter, (hr.step now k hgrave).1]

theorem dropped_iff (hr : Remembers r log) (hk : HasKey e k) :
    (r.filter now e).1 = .ok none ↔ Repeats r.window r.capacity log now k := by
  rw [hr.shown hk, verdict]
  split
  · next hrepeats => simp [Passage.shown, hrepeats]
  · next hpasses => simp [Passage.shown, hpasses]

theorem carries_iff (hr : Remembers r log) (hk : HasKey e k)
    (hnone : e.extra.get? "suppressed" = none) {passed : LogEntry}
    (hpassed : (r.filter now e).1 = .ok (some passed)) (d : Datum) :
    passed.extra.get? "suppressed" = some d ↔
      k ∈ recent r.capacity log ∧ 0 < pending k log ∧ d = .int (pending k log) := by
  rw [hr.shown hk, verdict] at hpassed
  split at hpassed
  · cases hpassed
  · obtain rfl := Option.some.inj (Except.ok.inj hpassed)
    rw [following_carries_iff hnone, untold]
    split
    · next hmem => simp [hmem]
    · next hforgotten => simp [hforgotten]

theorem answers (hr : Remembers r log) (now : Float) (e : LogEntry) : Answers r log now e where
  grave level hlevel hgrave := by rw [filter, hlevel]; exact if_pos hgrave
  levelless f hlevel := by rw [filter, hlevel]
  keyless level f hlevel hbelow hkey := by
    rw [filter, hlevel, hkey]
    exact if_neg (Int.not_le.mpr hbelow)
  shown _ hk := hr.shown hk
  dropped_iff _ hk := hr.dropped_iff hk
  carries_iff _ hk hnone _ hpassed := hr.carries_iff hk hnone hpassed

end Remembers

/-! ## The answers as they come -/

/-- The entries that have a key, of those that a limit is fed, each with its answer. -/
def answered (r : RateLimit) :
    List (Float × LogEntry) → List ((Float × LogEntry) × Except Fault (Option LogEntry))
  | [] => []
  | f :: fed =>
    let rest := (r.filter f.1 f.2).2.answered fed
    if (sighting? f).isSome then (f, (r.filter f.1 f.2).1) :: rest else rest

/-- A log tells of an entry with a key when it was heard and what the handlers got of it. -/
structure Heard.Tells (h : Heard) (a : (Float × LogEntry) × Except Fault (Option LogEntry)) :
    Prop where
  key : HasKey a.1.2 h.key
  time : h.time = a.1.1
  shown : a.2 = .ok (h.passage.shown a.1.2)

theorem answered_concat (r : RateLimit) (fed : List (Float × LogEntry)) (f : Float × LogEntry) :
    r.answered (fed ++ [f]) = r.answered fed ++
      if (sighting? f).isSome then [(f, ((r.feed fed).filter f.1 f.2).1)] else [] := by
  induction fed generalizing r with
  | nil => rfl
  | cons g fed ih =>
    rw [List.cons_append, answered, answered, ih]
    split
    · rfl
    · rfl

/-- The log of entries tells what a limit answers to each, in their order. -/
theorem tells_history (window : Float) (capacity : Nat) (fed : List (Float × LogEntry)) :
    List.Forall₂ Heard.Tells (history window capacity fed)
      (({ window, capacity } : RateLimit).answered fed) := by
  induction fed using List.reverseRecOn with
  | nil => exact .nil
  | append_singleton fed f ih =>
    obtain ⟨hwindow, hcapacity, hr⟩ := remembers_feed window capacity fed
    rw [history_concat, answered_concat]
    cases hs : sighting? f with
    | none => simpa using ih
    | some s =>
      obtain ⟨level, hlevel, hgrave, hkey, -⟩ := sighting?_eq_some hs
      have hk : HasKey f.2 s.key := ⟨level, hlevel, Int.not_le.mp hgrave, hkey⟩
      refine List.rel_append ih (.cons ⟨hk, rfl, (hr.shown hk).trans ?_⟩ .nil)
      rw [hwindow, hcapacity]

/-! ## The meaning of a limit -/

/-- The meaning of a limit after entries of which this is the log. -/
structure Means (r : RateLimit) (log : List Heard) : Prop where
  remembers : Remembers r log
  answers : ∀ now e, Answers r log now e
  settled : keyCount log ≤ r.capacity →
    ∀ key, drops key log = reports key log + r.counted key

/-- **A rate limit means what its log says**, for any entries at any times: the log tells what
became of each; the limit remembers the keys heard last, when each last passed and how often it was
dropped since; the next entry is dropped exactly if it repeats what is remembered, and reports what
was dropped otherwise; and with room for all keys nothing dropped goes untold. -/
theorem feed_meaning (window : Float) (capacity : Nat) (fed : List (Float × LogEntry)) :
    (({ window, capacity } : RateLimit).feed fed).window = window ∧
      (({ window, capacity } : RateLimit).feed fed).capacity = capacity ∧
      List.Forall₂ Heard.Tells (history window capacity fed)
        (({ window, capacity } : RateLimit).answered fed) ∧
      Means (({ window, capacity } : RateLimit).feed fed) (history window capacity fed) := by
  obtain ⟨hwindow, hcapacity, hr⟩ := remembers_feed window capacity fed
  refine ⟨hwindow, hcapacity, tells_history window capacity fed, hr, hr.answers,
    fun hroom key => ?_⟩
  have hcounted : untold capacity (history window capacity fed) key =
      (({ window, capacity } : RateLimit).feed fed).counted key := by
    rw [counted, ← hr.untold_eq, hcapacity]
  rw [hcapacity] at hroom
  rw [← hcounted, untold_of_room hroom]
  exact drops_history window capacity fed key hroom

end RateLimit

end BlockStorage
