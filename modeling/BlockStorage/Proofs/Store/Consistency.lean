import BlockStorage.Proofs.Store.Report

/-!
# Nothing to say about a store that was worked with

A store that only its operations have changed is exact. Its tables and indices
agree, so that the consistency check finds nothing in it.

* `Store.Exact.consistencyErrors`: there is nothing to say about an exact store.
* `Store.run_consistent`: exact indices, lists and an empty report after any
  operations on a new store.
-/

namespace BlockStorage.Store

variable {s : Store}

/-- **There is nothing to say about an exact store.** -/
theorem Exact.consistencyErrors (h : s.Exact) : s.consistencyErrors = .ok [] :=
  h.agreeing.consistencyErrors h.tabular

/-! ## Runs from a new store -/

/-- **After any operations on a new store, whatever they answer, the indices are exact**: every list
is what going through the tables would find, and the consistency check has nothing to say. -/
theorem run_consistent {settings : StoreSettings} (hs : Store.new settings = .ok s)
    (ops : List (Except Fault Timestamp × Operation)) :
    (s.run ops).Exact ∧ (s.run ops).Listing ∧ (s.run ops).consistencyErrors = .ok [] := by
  obtain ⟨-, h⟩ := run_new hs ops
  exact ⟨h, h.listing, h.consistencyErrors⟩

/-- A snapshot outlives its volume, which was removed while it was attached. -/
theorem consistent_without_source :
    let now : Except Fault Timestamp := .ok ⟨2024, 1, 1, 0, 0, 0, 0, .given 0⟩
    let ops : List (Except Fault Timestamp × Operation) :=
      [(now, .createVolume .null (.volume { sizeGb := some 8.0, location := some "us-east-1" })),
        (now, .attachVolume "us-east-1/vol-1" "us-east-1/i-1" (.attach ⟨"/dev/sdh"⟩)),
        (now, .createSnapshot "us-east-1/vol-1" (.other .null)),
        (now, .removeVolume "us-east-1/vol-1")]
    let s : Store := { settings := {}, volumeType := .localDisk }
    Store.new {} = .ok s ∧
      (s.run ops).Exact ∧ (s.run ops).Listing ∧ (s.run ops).consistencyErrors = .ok [] := by
  have hnew : Store.new {} = .ok { settings := {}, volumeType := .localDisk } := rfl
  exact ⟨hnew, run_consistent hnew _⟩

end BlockStorage.Store
