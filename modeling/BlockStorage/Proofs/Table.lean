import BlockStorage.Table

/-!
# Tables and indices as maps and as sets

Every name of a table is written once, so an entry is what reading its name gives.
An index relates keys to members; it keeps each pair once, and no key without a
member.

* `Table.mem_iff_get?`: the entries of a table are what reading sees.
* `Table.Keyed`: every record stands once, under its own id.
* `Index.Holds`: an index holds exactly the pairs of a relation.
* `Index.Holds.add`, `Index.Holds.discard`, `Index.Holds.erase`: the relation that
  it holds after a change.
* `Index.Of`: an index holds what a table determines.
-/

namespace BlockStorage

namespace Table

variable {α : Type} {t : Table α} {name : String}

/-- The name has a value, and one of a kind. -/
def Where (t : Table α) (P : α → Prop) (name : String) : Prop := ∃ v, t.get? name = some v ∧ P v

theorem where_put (t : Table α) (P : α → Prop) (name other : String) (v : α) :
    (t.put name v).Where P other ↔ (other = name ∧ P v) ∨ (other ≠ name ∧ t.Where P other) := by
  rw [Where, get?_put]
  by_cases h : name = other
  · simp [h]
  · simp [h, Ne.symm h, Where]

theorem where_erase (t : Table α) (P : α → Prop) (name other : String) :
    (t.erase name).Where P other ↔ other ≠ name ∧ t.Where P other := by
  rw [Where, get?_erase]
  by_cases h : name = other
  · simp [h]
  · simp [h, Ne.symm h, Where]

theorem where_of_get? {P : α → Prop} {v : α} (h : t.get? name = some v) : t.Where P name ↔ P v := by
  simp [Where, h]

theorem not_where_of_get? {P : α → Prop} (h : t.get? name = none) : ¬ t.Where P name := by
  simp [Where, h]

theorem get?_put_eq_some {t : Table α} {other : String} {v w : α} :
    (t.put name v).get? other = some w ↔
      (other = name ∧ w = v) ∨ (other ≠ name ∧ t.get? other = some w) := by
  rw [get?_put]
  by_cases h : name = other
  · simp [h, eq_comm]
  · simp [h, Ne.symm h]

theorem get?_erase_eq_some {t : Table α} {other : String} {w : α} :
    (t.erase name).get? other = some w ↔ other ≠ name ∧ t.get? other = some w := by
  rw [get?_erase]
  by_cases h : name = other
  · simp [h]
  · simp [h, Ne.symm h]

/-! ## Names -/

theorem mem_keys_iff : name ∈ t.keys ↔ ∃ v, t.get? name = some v := by
  induction t with
  | nil => simp [keys]
  | cons e t ih =>
    obtain ⟨n, w⟩ := e
    rw [keys, List.map_cons, List.mem_cons, ← keys, ih, get?_cons]
    by_cases hn : n = name
    · simp [hn]
    · simp [hn, Ne.symm hn]

theorem get?_eq_none_iff : t.get? name = none ↔ name ∉ t.keys := by
  rw [mem_keys_iff, ← Option.isSome_iff_exists, Option.not_isSome_iff_eq_none]

/-- Erasing a name that has no value changes nothing. -/
theorem erase_eq_self (h : t.get? name = none) : t.erase name = t := by
  refine List.filter_eq_self.mpr fun e he => decide_eq_true ?_
  rintro rfl
  have hmem : e.1 ∈ t.keys := List.mem_map_of_mem he
  obtain ⟨v, hv⟩ := mem_keys_iff.mp hmem
  rw [h] at hv
  cases hv

theorem keys_put (t : Table α) (name : String) (v : α) :
    (t.put name v).keys = if name ∈ t.keys then t.keys else t.keys ++ [name] := by
  induction t with
  | nil => rfl
  | cons e t ih =>
    obtain ⟨n, w⟩ := e
    rw [put]
    by_cases hn : n = name
    · rw [if_pos hn, if_pos]
      · rfl
      · rw [keys, List.map_cons, hn]
        exact List.mem_cons_self
    · rw [if_neg hn, keys, List.map_cons, ← keys, ih]
      by_cases hmem : name ∈ keys t
      · rw [if_pos hmem, if_pos]
        · rfl
        · exact List.mem_cons_of_mem n hmem
      · rw [if_neg hmem, if_neg]
        · rfl
        · rw [keys, List.map_cons, List.mem_cons]
          rintro (rfl | h)
          · exact hn rfl
          · exact hmem h

theorem mem_keys_put (t : Table α) (name other : String) (v : α) :
    other ∈ (t.put name v).keys ↔ other = name ∨ other ∈ t.keys := by
  rw [keys_put]
  split
  · next hmem =>
    refine ⟨Or.inr, ?_⟩
    rintro (rfl | h)
    · exact hmem
    · exact h
  · rw [List.mem_append, List.mem_singleton, Or.comm]

theorem mem_keys_put_of_get? {t : Table α} {v : α} (h : t.get? name = some v) (w : α)
    (other : String) : other ∈ (t.put name w).keys ↔ other ∈ t.keys := by
  rw [keys_put, if_pos (mem_keys_iff.mpr ⟨v, h⟩)]

theorem mem_keys_erase (t : Table α) (name other : String) :
    other ∈ (t.erase name).keys ↔ other ≠ name ∧ other ∈ t.keys := by
  rw [mem_keys_iff, get?_erase, mem_keys_iff]
  by_cases h : name = other
  · simp [h]
  · simp [h, Ne.symm h]

theorem has_iff_mem_keys : t.has name = true ↔ name ∈ t.keys := by
  rw [has, Option.isSome_iff_exists, mem_keys_iff]

theorem nodup_keys_put (h : t.keys.Nodup) (name : String) (v : α) : (t.put name v).keys.Nodup := by
  rw [keys_put]
  split
  · exact h
  · next hmem =>
    refine List.nodup_append.mpr ⟨h, List.pairwise_singleton _ name, ?_⟩
    rintro n hn m hm rfl
    rw [List.mem_singleton.mp hm] at hn
    exact hmem hn

theorem nodup_keys_erase (h : t.keys.Nodup) (name : String) : (t.erase name).keys.Nodup := by
  have hsub : (t.erase name).keys.Sublist t.keys := List.filter_sublist.map _
  exact hsub.nodup h

/-- Where every name is written once, the entries are what reading sees. -/
theorem mem_iff_get? (h : t.keys.Nodup) {v : α} : (name, v) ∈ t ↔ t.get? name = some v := by
  induction t with
  | nil => simp
  | cons e t ih =>
    obtain ⟨n, w⟩ := e
    rw [keys, List.map_cons, List.nodup_cons] at h
    obtain ⟨hn, ht⟩ := h
    rw [List.mem_cons, ih ht, get?_cons]
    by_cases heq : n = name
    · subst heq
      have hnone : get? t n ≠ some v := fun hv => hn (mem_keys_iff.mpr ⟨v, hv⟩)
      simp [hnone, eq_comm]
    · simp [heq, Ne.symm heq]

theorem mem_values (h : t.keys.Nodup) {v : α} : v ∈ t.values ↔ ∃ name, t.get? name = some v := by
  rw [values, List.mem_map]
  constructor
  · rintro ⟨⟨n, w⟩, hmem, rfl⟩
    exact ⟨n, (mem_iff_get? h).mp hmem⟩
  · rintro ⟨n, hn⟩
    exact ⟨(n, v), (mem_iff_get? h).mpr hn, rfl⟩

/-! ## Records under their ids -/

/-- Every record stands once, under its own id. -/
structure Keyed (t : Table α) (ident : α → String) : Prop where
  nodup : t.keys.Nodup
  ident_eq : ∀ name v, t.get? name = some v → ident v = name

namespace Keyed

variable {ident : α → String}

theorem nil : Keyed ([] : Table α) ident := ⟨List.nodup_nil, fun _ _ h => by cases h⟩

theorem put (h : t.Keyed ident) {v : α} (hv : ident v = name) : (t.put name v).Keyed ident := by
  refine ⟨nodup_keys_put h.nodup name v, fun other w hw => ?_⟩
  rcases get?_put_eq_some.mp hw with ⟨rfl, rfl⟩ | ⟨-, hold⟩
  · exact hv
  · exact h.ident_eq other w hold

theorem erase (h : t.Keyed ident) (name : String) : (t.erase name).Keyed ident :=
  ⟨nodup_keys_erase h.nodup name, fun other w hw =>
    h.ident_eq other w (get?_erase_eq_some.mp hw).2⟩

theorem mem_values (h : t.Keyed ident) {v : α} : v ∈ t.values ↔ t.get? (ident v) = some v := by
  rw [Table.mem_values h.nodup]
  refine ⟨fun ⟨name, hv⟩ => ?_, fun hv => ⟨_, hv⟩⟩
  rw [h.ident_eq name v hv]
  exact hv

theorem pairwise_values (h : t.Keyed ident) : t.values.Pairwise fun v w => ident v ≠ ident w := by
  have hkeys := List.pairwise_map.mp h.nodup
  refine List.pairwise_map.mpr (hkeys.imp_of_mem fun {e f} he hf hne => ?_)
  rw [h.ident_eq e.1 e.2 ((mem_iff_get? h.nodup).mp he),
    h.ident_eq f.1 f.2 ((mem_iff_get? h.nodup).mp hf)]
  exact hne

end Keyed

end Table

/-! ## Indices -/

/-- An index holds exactly the pairs of a relation, each of them once, and no key without a
member. -/
structure Index.Holds (i : Index) (P : String → String → Prop) : Prop where
  keys : Table.keys i |>.Nodup
  sets : ∀ key ms, i.get? key = some ms → ms ≠ [] ∧ ms.Nodup
  mem : ∀ key m, m ∈ i.members key ↔ P key m

namespace Index

variable {i : Index} {P Q : String → String → Prop}

theorem members_of_get? {key : String} {ms : List String} (h : i.get? key = some ms) :
    i.members key = ms := by
  rw [members, h]
  rfl

theorem members_put (key other : String) (ms : List String) :
    Index.members (i.put key ms) other = if key = other then ms else i.members other := by
  rw [members, Table.get?_put]
  split <;> rfl

theorem members_erase (key other : String) :
    Index.members (i.erase key) other = if key = other then [] else i.members other := by
  rw [members, Table.get?_erase]
  split <;> rfl

namespace Holds

theorem nil (hP : ∀ key m, ¬ P key m) : Holds [] P where
  keys := List.nodup_nil
  sets _ _ h := by cases h
  mem key m := by simp [members, hP key m]

theorem congr (h : i.Holds P) (hPQ : ∀ key m, P key m ↔ Q key m) : i.Holds Q where
  keys := h.keys
  sets := h.sets
  mem key m := (h.mem key m).trans (hPQ key m)

theorem nodup (h : i.Holds P) (key : String) : (i.members key).Nodup := by
  cases hms : i.get? key with
  | none =>
    rw [members, hms]
    exact List.nodup_nil
  | some ms =>
    rw [members_of_get? hms]
    exact (h.sets key ms hms).2

theorem add (h : i.Holds P) (key member : String) :
    (i.add key member).Holds fun k m => P k m ∨ (k = key ∧ m = member) := by
  rw [Index.add]
  generalize hms : (if (i.members key).contains member then i.members key
    else i.members key ++ [member]) = ms
  have hmem : ∀ m, m ∈ ms ↔ m ∈ i.members key ∨ m = member := by
    intro m
    rw [← hms]
    split
    · next hin =>
      refine ⟨Or.inl, ?_⟩
      rintro (hm | rfl)
      · exact hm
      · simpa using hin
    · rw [List.mem_append, List.mem_singleton]
  have hnodup : ms.Nodup := by
    rw [← hms]
    split
    · exact h.nodup key
    · next hin =>
      refine List.nodup_append.mpr ⟨h.nodup key, List.pairwise_singleton _ _, ?_⟩
      rintro n hn m hm rfl
      rw [List.mem_singleton.mp hm] at hn
      exact hin (by simpa using hn)
  refine ⟨Table.nodup_keys_put h.keys key ms, fun k ns hns => ?_, fun k m => ?_⟩
  · rw [Table.get?_put] at hns
    split at hns
    · obtain rfl := Option.some.inj hns
      exact ⟨List.ne_nil_of_mem ((hmem member).mpr (Or.inr rfl)), hnodup⟩
    · exact h.sets k ns hns
  · rw [members_put]
    split
    · next hk =>
      subst hk
      rw [hmem, h.mem]
      simp
    · next hk =>
      rw [h.mem]
      simp [Ne.symm hk]

theorem erase (h : i.Holds P) (key : String) :
    Holds (i.erase key) fun k m => P k m ∧ k ≠ key := by
  refine ⟨Table.nodup_keys_erase h.keys key, fun k ns hns => ?_, fun k m => ?_⟩
  · rw [Table.get?_erase] at hns
    split at hns
    · cases hns
    · exact h.sets k ns hns
  · rw [members_erase]
    split
    · next hk => simp [hk]
    · next hk =>
      rw [h.mem]
      simp [Ne.symm hk]

theorem discard (h : i.Holds P) (key member : String) :
    (i.discard key member).Holds fun k m => P k m ∧ ¬ (k = key ∧ m = member) := by
  rw [Index.discard]
  split
  · next hnone =>
    refine h.congr fun k m => ⟨fun hP => ⟨hP, ?_⟩, And.left⟩
    rintro ⟨rfl, rfl⟩
    have hmem := (h.mem k m).mpr hP
    rw [members, hnone] at hmem
    exact absurd hmem List.not_mem_nil
  · next ms hms =>
    have hmembers : ∀ m, m ∈ ms ↔ P key m := fun m => by rw [← h.mem, members_of_get? hms]
    dsimp only
    split
    · next hempty =>
      -- the last member has gone, and the key with it
      refine (h.erase key).congr fun k m => ⟨fun ⟨hP, hk⟩ => ⟨hP, fun hkm => hk hkm.1⟩, ?_⟩
      rintro ⟨hP, hkm⟩
      refine ⟨hP, fun hk => ?_⟩
      subst hk
      have hrest : m ∈ ms.filter (· ≠ member) := by
        simpa using ⟨(hmembers m).mpr hP, fun hm => hkm ⟨rfl, hm⟩⟩
      rw [List.isEmpty_iff.mp hempty] at hrest
      exact absurd hrest List.not_mem_nil
    · next hsome =>
      have hne : ms.filter (· ≠ member) ≠ [] := fun hnil => hsome (List.isEmpty_iff.mpr hnil)
      refine ⟨Table.nodup_keys_put h.keys key _, fun k ns hns => ?_, fun k m => ?_⟩
      · rw [Table.get?_put] at hns
        split at hns
        · obtain rfl := Option.some.inj hns
          exact ⟨hne, List.filter_sublist.nodup (h.sets key ms hms).2⟩
        · exact h.sets k ns hns
      · rw [members_put]
        split
        · next hk =>
          subst hk
          simp [hmembers]
        · next hk =>
          rw [h.mem]
          simp [Ne.symm hk]

end Holds

/-! ## Indices of tables -/

/-- An index of a table by a key, which a record may lack. -/
def Of {α : Type} (i : Index) (t : Table α) (key : α → Option String) : Prop :=
  i.Holds fun k id => t.Where (key · = some k) id

namespace Of

variable {α : Type} {t : Table α} {key : α → Option String} {name k : String} {old new : α}

theorem mem (h : i.Of t key) (k m : String) : m ∈ i.members k ↔ t.Where (key · = some k) m :=
  Holds.mem h k m

/-- Writing a record whose key is the old one. -/
theorem put_same (h : i.Of t key) (hold : t.get? name = some old) (hkey : key new = key old) :
    i.Of (t.put name new) key := by
  refine Holds.congr h fun k id => ?_
  rw [Table.where_put, hkey]
  by_cases hid : id = name
  · subst hid
    simp [Table.where_of_get? hold]
  · simp [hid]

/-- Putting a new record into both. -/
theorem put_new (h : i.Of t key) (hnone : t.get? name = none) (hkey : key new = some k) :
    (i.add k name).Of (t.put name new) key := by
  refine (Holds.add h k name).congr fun l id => ?_
  rw [Table.where_put, hkey, Option.some.injEq, eq_comm (a := k)]
  by_cases hid : id = name
  · subst hid
    simp [Table.not_where_of_get? hnone]
  · simp [hid]

end Of

end Index

end BlockStorage
