import BlockStorage.Handle

/-!
# Handles and their parts

* `Handle.decode_encode`: an encoded handle is decoded to its parts.
* `Handle.encode_of_isPart`: what is a part of a handle can be encoded.
-/

namespace BlockStorage.Handle

theorem takeWhile_scope {scope rest : List Char} (h : separator ∉ scope) :
    (scope ++ separator :: rest).takeWhile (· ≠ separator) = scope := by
  rw [List.takeWhile_append_of_pos fun c hc => by
    exact decide_eq_true fun heq => h (heq ▸ hc)]
  rw [List.takeWhile_cons_of_neg (by simp), List.append_nil]

theorem dropWhile_scope {scope rest : List Char} (h : separator ∉ scope) :
    (scope ++ separator :: rest).dropWhile (· ≠ separator) = separator :: rest := by
  rw [List.dropWhile_append_of_pos fun c hc => by
    exact decide_eq_true fun heq => h (heq ▸ hc)]
  rw [List.dropWhile_cons_of_neg (by simp)]

/-- A handle is made only of parts that are not empty and hold no separator. -/
theorem encode_eq_ok {scope localId handle : String} (h : encode scope localId = .ok handle) :
    localId.isEmpty = false ∧ separator ∉ localId.toList ∧ scope.isEmpty = false ∧
      separator ∉ scope.toList ∧
      handle = String.ofList (scope.toList ++ separator :: localId.toList) := by
  rw [encode] at h
  split at h
  · cases h
  · next hlocal =>
    split at h
    · cases h
    · next hfree =>
      split at h
      · cases h
      · next hscope =>
        split at h
        · cases h
        · next hfree' =>
          refine ⟨by simpa using hlocal, by simpa using hfree, by simpa using hscope,
            by simpa using hfree', (Except.ok.inj h).symm⟩

/-- **An encoded handle is decoded to its parts.** -/
theorem decode_encode {scope localId handle : String} (h : encode scope localId = .ok handle) :
    decode handle = .ok ⟨scope, localId⟩ := by
  obtain ⟨hlocal, -, hscope, hfree, rfl⟩ := encode_eq_ok h
  rw [decode]
  simp only [String.toList_ofList]
  rw [takeWhile_scope hfree, dropWhile_scope hfree]
  have hempty : ∀ s : String, s.toList.isEmpty = s.isEmpty := fun s => by
    rw [Bool.eq_iff_iff, List.isEmpty_iff, String.isEmpty_iff, String.toList_eq_nil_iff]
  simp only [hempty, hscope, hlocal, Bool.or_self, Bool.false_eq_true, if_false,
    String.ofList_toList]

/-- A text that may stand on either side of the separator. -/
structure IsPart (s : String) : Prop where
  given : s.isEmpty = false
  free : separator ∉ s.toList

/-- A number can stand behind any prefix without a separator. -/
theorem isPart_numbered {start : String} (h : separator ∉ start.toList) (n : Nat) :
    IsPart (start ++ toString n) := by
  constructor
  · rw [Bool.eq_false_iff]
    intro hempty
    have hnumber := (String.append_eq_empty_iff.mp (String.isEmpty_iff.mp hempty)).2
    exact Nat.repr_ne_empty hnumber
  · rw [String.toList_append, List.mem_append]
    rintro (hmem | hmem)
    · exact h hmem
    · have hdigits : separator ∈ Nat.toDigits 10 n := Nat.toList_repr ▸ hmem
      have hdigit := Nat.isDigit_of_mem_toDigits (by decide) (by decide) hdigits
      exact absurd hdigit (by decide)

theorem encode_of_isPart {scope localId : String} (hs : IsPart scope) (hl : IsPart localId) :
    ∃ handle, encode scope localId = .ok handle := by
  have hscope := hs.free
  have hlocal := hl.free
  refine ⟨String.ofList (scope.toList ++ separator :: localId.toList), ?_⟩
  rw [encode, if_neg (by rw [hl.given]; exact Bool.false_ne_true), if_neg (by simpa using hlocal),
    if_neg (by rw [hs.given]; exact Bool.false_ne_true), if_neg (by simpa using hscope)]

theorem encode_of_separator {scope localId : String} (hl : IsPart localId)
    (hs : separator ∈ scope.toList) :
    encode scope localId = .error (.separatorInScope scope) := by
  have hlocal := hl.free
  have hgiven : scope.isEmpty = false := by
    refine Bool.eq_false_iff.mpr fun hempty => ?_
    rw [String.isEmpty_iff.mp hempty] at hs
    exact List.not_mem_nil hs
  rw [encode, if_neg (by rw [hl.given]; exact Bool.false_ne_true), if_neg (by simpa using hlocal),
    if_neg (by rw [hgiven]; exact Bool.false_ne_true), if_pos (by simpa using hs)]

/-- The scope of a handle that was decoded is a part of a handle. -/
theorem isPart_scope {handle : String} {h : Handle} (hdecode : decode handle = .ok h) :
    IsPart h.scope := by
  rw [decode] at hdecode
  split at hdecode
  · split at hdecode
    · cases hdecode
    · next hgiven =>
      obtain rfl := (Except.ok.inj hdecode).symm
      constructor
      · rw [Bool.eq_false_iff]
        intro hempty
        rw [String.isEmpty_iff, String.ofList_eq_empty_iff] at hempty
        rw [hempty] at hgiven
        exact hgiven rfl
      · rw [String.toList_ofList]
        intro hmem
        have hother := List.all_eq_true.mp List.all_takeWhile separator hmem
        simp at hother
  · cases hdecode

/-- The region of a zone is not empty. -/
theorem regionOfZone_given {zone region : String} (h : regionOfZone zone = .ok region) :
    region.isEmpty = false := by
  rw [regionOfZone] at h
  split at h
  · cases h
  · dsimp only at h
    split at h
    · cases h
    · next hregion =>
      obtain rfl := (Except.ok.inj h).symm
      rw [Bool.eq_false_iff]
      intro hempty
      rw [String.isEmpty_iff, String.ofList_eq_empty_iff] at hempty
      rw [hempty] at hregion
      exact hregion rfl

end BlockStorage.Handle
