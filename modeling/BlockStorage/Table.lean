/-!
# Tables

Values under names, in the order in which the names were first written. Writing
to a known name keeps its place; erasing a name and writing it again moves it to
the end.

* `Table.get?`, `Table.put`, `Table.erase`: one entry.
* `Table.ofPairs`: the table of a list of pairs, of which the last counts.
* `Table.get?_put`, `Table.get?_erase`: what reading sees of a write.
-/

namespace BlockStorage

abbrev Table (α : Type) := List (String × α)

namespace Table

variable {α : Type}

/-- The value of a name. -/
def get? (t : Table α) (name : String) : Option α := t.lookup name

/-- Whether a name has a value. -/
def has (t : Table α) (name : String) : Bool := (t.get? name).isSome

/-- Writes a value under a name. -/
def put : Table α → String → α → Table α
  | [], name, v => [(name, v)]
  | (n, w) :: t, name, v => if n = name then (n, v) :: t else (n, w) :: put t name v

/-- Takes a name out. -/
def erase (t : Table α) (name : String) : Table α := t.filter fun e => e.1 ≠ name

def keys (t : Table α) : List String := t.map (·.1)

def values (t : Table α) : List α := t.map (·.2)

/-- Writes all of the second table over the first. -/
def merge (t u : Table α) : Table α := u.foldl (fun acc e => acc.put e.1 e.2) t

/-- Keeps the last value of each name, in the place of its first. -/
def ofPairs (ps : List (String × α)) : Table α := merge [] ps

/-! ## What reading sees -/

@[simp] theorem get?_nil (name : String) : get? ([] : Table α) name = none := rfl

theorem get?_cons (n name : String) (w : α) (t : Table α) :
    get? ((n, w) :: t) name = if n = name then some w else get? t name := by
  rw [get?, List.lookup_cons]
  by_cases h : n = name
  · subst h; simp
  · have h' : (name == n) = false := by simpa using fun e : name = n => h e.symm
    rw [h', if_neg h]
    rfl

theorem get?_put (t : Table α) (name other : String) (v : α) :
    (t.put name v).get? other = if name = other then some v else t.get? other := by
  induction t with
  | nil => simp [put, get?_cons]
  | cons e t ih =>
    obtain ⟨n, w⟩ := e
    by_cases hn : n = name
    · subst hn
      by_cases ho : n = other <;> simp [put, get?_cons, ho]
    · by_cases ho : n = other
      · subst ho
        simp [put, get?_cons, hn, Ne.symm hn]
      · simp [put, get?_cons, hn, ho, ih]

theorem get?_erase (t : Table α) (name other : String) :
    (t.erase name).get? other = if name = other then none else t.get? other := by
  induction t with
  | nil => simp [erase]
  | cons e t ih =>
    obtain ⟨n, w⟩ := e
    simp only [erase, ne_eq, decide_not, List.filter_cons] at ih ⊢
    by_cases hn : n = name
    · subst hn
      by_cases ho : n = other
      · simp_all
      · simp_all [get?_cons]
    · by_cases ho : n = other
      · subst ho
        simp [get?_cons, hn, Ne.symm hn]
      · simp_all [get?_cons]

end Table

/-! ## Indices -/

/-- Sets of names under names. -/
abbrev Index := Table (List String)

namespace Index

/-- The members under a key; none for an unknown key. -/
def members (i : Index) (key : String) : List String := (i.get? key).getD []

/-- Adds a member under a key. -/
def add (i : Index) (key member : String) : Index :=
  let ms := i.members key
  i.put key (if ms.contains member then ms else ms ++ [member])

/-- Takes a member out from under a key, and the key too when nothing is left under it. -/
def discard (i : Index) (key member : String) : Index :=
  match i.get? key with
  | none => i
  | some ms =>
    let rest := ms.filter (· ≠ member)
    if rest.isEmpty then i.erase key else i.put key rest

end Index

end BlockStorage
