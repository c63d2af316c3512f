import BlockStorage.Log.RateLimit
import Mathlib.Data.List.Induction
import Mathlib.Data.List.Nodup

/-!
# What a rate limit remembers

A rate limit knows a record by its key alone. Records of different keys all pass,
and it remembers the last of them, as many as it has room for.

* `RateLimit.sighting?`: what an entry leaves behind, if its key is new.
* `RateLimit.feed`: the limit after entries that came one after the other.
* `RateLimit.passes_iff`: which entries pass.
* `RateLimit.seen_feed`: what is remembered of entries of different keys.
-/

namespace BlockStorage

namespace RateLimit

variable {r : RateLimit} {now : Float} {e : LogEntry} {s : Sighting}
  {fed : List (Float × LogEntry)} {seen : List Sighting}

/-- What an entry leaves behind at a time, if its key is new; what always passes leaves nothing. -/
def sighting? (f : Float × LogEntry) : Option Sighting :=
  match levelOf f.2, key f.2 with
  | .ok level, .ok k => if gravest ≤ level then none else some ⟨k, f.1, 0⟩
  | _, _ => none

/-- The limit after entries that came one after the other, each at its time. -/
def feed (r : RateLimit) (fed : List (Float × LogEntry)) : RateLimit :=
  fed.foldl (fun r f => (r.filter f.1 f.2).2) r

/-- An entry passes, with or without a number of those dropped before it. -/
def Passes (r : RateLimit) (now : Float) (e : LogEntry) : Prop :=
  ∃ shown, (r.filter now e).1 = .ok (some shown)

theorem feed_concat (r : RateLimit) (fed : List (Float × LogEntry)) (f : Float × LogEntry) :
    r.feed (fed ++ [f]) = ((r.feed fed).filter f.1 f.2).2 := by
  rw [feed, List.foldl_append]
  rfl

/-! ## One entry -/

theorem sighting?_eq_some (h : sighting? (now, e) = some s) :
    ∃ level, levelOf e = .ok level ∧ ¬ gravest ≤ level ∧
      key e = .ok s.key ∧ s = ⟨s.key, now, 0⟩ := by
  rw [sighting?] at h
  split at h
  · next level k hlevel hkey =>
    split at h
    · cases h
    · next hgrave =>
      obtain rfl := Option.some.inj h
      exact ⟨level, hlevel, hgrave, hkey, rfl⟩
  · cases h

/-- What leaves nothing behind changes nothing. -/
theorem filter_of_none (h : sighting? (now, e) = none) (r : RateLimit) :
    (r.filter now e).2 = r := by
  rw [sighting?] at h
  rw [filter]
  split
  · rfl
  · next level hlevel =>
    split
    · rfl
    · next hgrave =>
      split
      · rfl
      · next k hkey =>
        rw [hlevel, hkey] at h
        simp only [hgrave, if_false] at h
        cases h

/-- The limit looks at the key of an entry, and nothing else. -/
theorem filter_of_some (h : sighting? (now, e) = some s) (r : RateLimit) :
    ∃ level, ¬ gravest ≤ level ∧ (r.filter now e).2 = (r.step now level s.key).2 ∧
      (r.Passes now e ↔ (r.step now level s.key).1 ≠ .dropped) := by
  obtain ⟨level, hlevel, hgrave, hkey, -⟩ := sighting?_eq_some h
  refine ⟨level, hgrave, ?_⟩
  rw [Passes, filter, hlevel]
  simp only [hgrave, if_false, hkey]
  cases hstep : r.step now level s.key with
  | mk passage after =>
    cases passage with
    | dropped => simp
    | passed dropped => cases dropped <;> simp

theorem step_passes_iff {level : Int} {k : String} (hgrave : ¬ gravest ≤ level) :
    (r.step now level k).1 ≠ .dropped ↔
      ∀ t, r.seen.find? (·.key = k) = some t → ¬ now - t.passedAt < r.window := by
  rw [step, if_neg hgrave]
  cases hfind : r.seen.find? (·.key = k) with
  | none => simp
  | some t =>
    dsimp only
    split
    · next hrecent => simp [hrecent]
    · next hlate => simp [hlate]

/-- **An entry is dropped if its key is remembered from less than a window before**, and passes
otherwise. -/
theorem passes_iff (h : sighting? (now, e) = some s) :
    r.Passes now e ↔
      ∀ t, r.seen.find? (·.key = s.key) = some t → ¬ now - t.passedAt < r.window := by
  obtain ⟨level, hgrave, -, hpasses⟩ := filter_of_some h r
  exact hpasses.trans (step_passes_iff hgrave)

/-- A new key is remembered. -/
theorem filter_of_new (h : sighting? (now, e) = some s) (hnew : ∀ t ∈ r.seen, t.key ≠ s.key) :
    (r.filter now e).2 = { r with seen := trim r.capacity (r.seen ++ [s]) } := by
  obtain ⟨level, hgrave, hafter, -⟩ := filter_of_some h r
  obtain ⟨-, -, -, -, hs⟩ := sighting?_eq_some h
  have hnone : r.seen.find? (·.key = s.key) = none :=
    List.find?_eq_none.mpr fun t ht => by simpa using hnew t ht
  have hothers : r.seen.filter (·.key ≠ s.key) = r.seen :=
    List.filter_eq_self.mpr fun t ht => by simpa using hnew t ht
  rw [hafter, step, if_neg hgrave, hnone]
  simp only
  rw [hothers, ← hs]

/-! ## Entries of different keys -/

theorem trim_sublist (capacity : Nat) (seen : List Sighting) :
    (trim capacity seen).Sublist seen := List.drop_sublist _ _

/-- To forget in between makes no difference. -/
theorem trim_concat (capacity : Nat) (seen : List Sighting) (s : Sighting) :
    trim capacity (trim capacity seen ++ [s]) = trim capacity (seen ++ [s]) := by
  simp only [trim, List.length_append, List.length_drop, List.length_singleton]
  rw [List.drop_append, List.drop_append, List.drop_drop, List.length_drop]
  congr 2 <;> omega

/-- **Of entries of different keys the last are remembered**, as many as there is room for. -/
theorem seen_feed (hempty : r.seen = [])
    (hkeys : ((fed.filterMap sighting?).map (·.key)).Nodup) :
    r.feed fed = { r with seen := trim r.capacity (fed.filterMap sighting?) } := by
  induction fed using List.reverseRecOn with
  | nil =>
    have htrim : trim r.capacity [] = r.seen := by rw [hempty, trim, List.drop_nil]
    show r = { r with seen := trim r.capacity [] }
    rw [htrim]
  | append_singleton fed f ih =>
    obtain ⟨now, e⟩ := f
    rw [List.filterMap_append, List.map_append, List.nodup_append] at hkeys
    obtain ⟨hbefore, -, hapart⟩ := hkeys
    have hfed := ih hbefore
    rw [feed_concat, hfed, List.filterMap_append, List.filterMap_cons, List.filterMap_nil]
    cases hs : sighting? (now, e) with
    | none => simp only [filter_of_none hs, List.append_nil]
    | some s =>
      have hnew : ∀ t ∈ trim r.capacity (fed.filterMap sighting?), t.key ≠ s.key := by
        intro t ht
        refine hapart t.key (List.mem_map_of_mem ((trim_sublist ..).subset ht)) s.key ?_
        rw [List.filterMap_cons, hs]
        exact List.mem_singleton_self _
      rw [filter_of_new hs hnew]
      simp only [trim_concat]

/-- What decides about an entry after entries of different keys. -/
theorem feed_passes_iff (hempty : r.seen = [])
    (hkeys : ((fed.filterMap sighting?).map (·.key)).Nodup) (h : sighting? (now, e) = some s) :
    (r.feed fed).Passes now e ↔
      ∀ t ∈ trim r.capacity (fed.filterMap sighting?), t.key = s.key →
        ¬ now - t.passedAt < r.window := by
  rw [seen_feed hempty hkeys, passes_iff h]
  have hnodup := hkeys.sublist ((trim_sublist r.capacity _).map _)
  constructor
  · intro hall t ht hsame
    cases hfind : (trim r.capacity (fed.filterMap sighting?)).find? (·.key = s.key) with
    | none => exact absurd (List.find?_eq_none.mp hfind t ht) (by simpa using hsame)
    | some t' =>
      have hkey : t'.key = s.key := by simpa using List.find?_some hfind
      have hmem := List.mem_of_find?_eq_some hfind
      obtain rfl := List.inj_on_of_nodup_map hnodup hmem ht (hkey.trans hsame.symm)
      exact hall _ hfind
  · intro hall t hfind
    exact hall t (List.mem_of_find?_eq_some hfind) (by simpa using List.find?_some hfind)

end RateLimit

end BlockStorage
