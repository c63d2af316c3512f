import BlockStorage.Store

/-!
# Stores of tenants

One store for each tenant, made when it is first asked for. A store that a
caller still holds lives on after the tenants have been cleared, but a tenant
then gets a new one.
-/

namespace BlockStorage

structure Tenants where
  settings : StoreSettings
  /-- Every store ever made, by its number. -/
  stores : List Store := []
  /-- The numbers of the tenants' present stores. -/
  current : Table Nat := []

namespace Tenants

/-- The number of a tenant's store, which is made if there is none. -/
def get (t : Tenants) (tenant : String) : Except Fault Nat × Tenants :=
  match t.current.get? tenant with
  | some n => (.ok n, t)
  | none =>
    match Store.new t.settings with
    | .error f => (.error f, t)
    | .ok s =>
      let n := t.stores.length
      (.ok n, { t with stores := t.stores ++ [s], current := t.current.put tenant n })

/-- Forgets the tenants' stores. -/
def clear (t : Tenants) : Tenants := { t with current := [] }

/-- Writes a store back. -/
def write (t : Tenants) (n : Nat) (s : Store) : Tenants := { t with stores := t.stores.set n s }

/-- How many tenants have a store. -/
def size (t : Tenants) : Nat := t.current.length

end Tenants

end BlockStorage
