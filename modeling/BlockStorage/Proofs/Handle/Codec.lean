import BlockStorage.Proofs.Handle

/-!
# The codec of handles is exact

A handle is a text with a separator in it. `encode` is strict: it puts together
two parts, and a part is not empty and holds no separator. `decode` is not: it
splits at the first separator, so what it finds before it is a part, but the
rest may hold further separators. So the texts that are decoded are more than
those that are encoded, and a handle comes back from its parts exactly if the
separator stands in it once.

* `encode_eq_ok_iff`, `decode_eq_ok_iff`: the texts that each of the two gives
  or takes, and what it makes of them.
* `encoded_eq_ok_iff`, `encoded_of_many`: encoding what was decoded.
* `codec_exact`: the laws of the two together.
-/

namespace BlockStorage.Handle

/-! ## What is encoded -/

/-- Two parts and nothing else make a handle, and it is their texts with a separator between. -/
theorem encode_eq_ok_iff {scope localId text : String} :
    encode scope localId = .ok text ↔
      IsPart scope ∧ IsPart localId ∧
        text = String.ofList (scope.toList ++ separator :: localId.toList) := by
  constructor
  · intro h
    obtain ⟨hlocal, hlocalFree, hscope, hscopeFree, htext⟩ := encode_eq_ok h
    exact ⟨⟨hscope, hscopeFree⟩, ⟨hlocal, hlocalFree⟩, htext⟩
  · rintro ⟨hscope, hlocal, rfl⟩
    obtain ⟨text, htext⟩ := encode_of_isPart hscope hlocal
    obtain ⟨-, -, -, -, rfl⟩ := encode_eq_ok htext
    exact htext

theorem encode_injective {scope scope' localId localId' text : String}
    (h : encode scope localId = .ok text) (h' : encode scope' localId' = .ok text) :
    scope = scope' ∧ localId = localId' := by
  have hparts := (decode_encode h).symm.trans (decode_encode h')
  obtain ⟨hscope, hlocal⟩ := Handle.mk.inj (Except.ok.inj hparts)
  exact ⟨hscope, hlocal⟩

/-- The reasons for which two texts are not put together. -/
theorem encode_eq_error {scope localId : String} {why : BadArgument}
    (h : encode scope localId = .error why) :
    why = .emptyLocalId ∨ why = .separatorInLocalId localId ∨ why = .emptyScope ∨
      why = .separatorInScope scope := by
  rw [encode] at h
  split at h
  · exact .inl (Except.error.inj h).symm
  · split at h
    · exact .inr (.inl (Except.error.inj h).symm)
    · split at h
      · exact .inr (.inr (.inl (Except.error.inj h).symm))
      · split at h
        · exact .inr (.inr (.inr (Except.error.inj h).symm))
        · cases h

/-! ## What is decoded -/

theorem toList_ne_nil_iff {s : String} : s.toList ≠ [] ↔ s.isEmpty = false := by
  rw [Ne, String.toList_eq_nil_iff, ← String.isEmpty_iff, Bool.not_eq_true]

/-- At its first separator a list is what stands before it, the separator and a rest. -/
theorem split_eq {cs rest : List Char} {c : Char}
    (h : cs.dropWhile (· ≠ separator) = c :: rest) :
    cs = cs.takeWhile (· ≠ separator) ++ separator :: rest := by
  have hc : c = separator := by
    have hhead := List.head?_dropWhile_not (· ≠ separator) cs
    rw [h] at hhead
    simpa using hhead
  calc cs = cs.takeWhile (· ≠ separator) ++ cs.dropWhile (· ≠ separator) :=
        List.takeWhile_append_dropWhile.symm
    _ = cs.takeWhile (· ≠ separator) ++ separator :: rest := by rw [h, hc]

/-- A text is split where it is scope, separator and local id, with a part for its scope and
something for its local id. -/
theorem decode_eq_ok_iff {text : String} {h : Handle} :
    decode text = .ok h ↔
      text.toList = h.scope.toList ++ separator :: h.localId.toList ∧ IsPart h.scope ∧
        h.localId.isEmpty = false := by
  constructor
  · intro hdecode
    have hscope := isPart_scope hdecode
    rw [decode] at hdecode
    split at hdecode
    · next c rest hdrop =>
      split at hdecode
      · cases hdecode
      · next hgiven =>
        obtain rfl := (Except.ok.inj hdecode).symm
        have hrest : rest ≠ [] := by
          rintro rfl
          exact hgiven (by simp)
        refine ⟨?_, hscope, ?_⟩
        · rw [String.toList_ofList, String.toList_ofList]
          exact split_eq hdrop
        · rw [← toList_ne_nil_iff, String.toList_ofList]
          exact hrest
    · cases hdecode
  · rintro ⟨htext, hscope, hlocal⟩
    have hscopeGiven := List.isEmpty_eq_false_iff.mpr (toList_ne_nil_iff.mpr hscope.given)
    have hlocalGiven := List.isEmpty_eq_false_iff.mpr (toList_ne_nil_iff.mpr hlocal)
    rw [decode]
    simp only [htext, takeWhile_scope hscope.free, dropWhile_scope hscope.free]
    rw [hscopeGiven, hlocalGiven, Bool.or_self, if_neg Bool.false_ne_true, String.ofList_toList,
      String.ofList_toList]

theorem decode_eq_error {text : String} {why : BadArgument} (h : decode text = .error why) :
    why = .malformedHandle text := by
  rw [decode] at h
  split at h
  · split at h
    · exact (Except.error.inj h).symm
    · cases h
  · exact (Except.error.inj h).symm

/-! ## Encoding what was decoded -/

/-- The separators of a handle are the one that it is split at and those of its local id. -/
theorem count_separator {text : String} {h : Handle} (hdecode : decode text = .ok h) :
    text.toList.count separator = h.localId.toList.count separator + 1 := by
  obtain ⟨htext, hscope, -⟩ := decode_eq_ok_iff.mp hdecode
  rw [htext, List.count_append, List.count_eq_zero_of_not_mem hscope.free, Nat.zero_add,
    List.count_cons_self]

/-- What was decoded is encoded again if its local id is free of separators. -/
theorem encoded_eq_ok_iff {text : String} {h : Handle} (hdecode : decode text = .ok h) :
    h.encoded = .ok text ↔ text.toList.count separator = 1 := by
  obtain ⟨htext, hscope, hlocal⟩ := decode_eq_ok_iff.mp hdecode
  -- The scope is free of separators, so a second one can only stand in the local id.
  have honce : text.toList.count separator = 1 ↔ separator ∉ h.localId.toList := by
    rw [count_separator hdecode, Nat.add_eq_right, List.count_eq_zero]
  rw [honce, encoded, encode_eq_ok_iff, ← htext, String.ofList_toList]
  exact ⟨fun h => h.2.1.free, fun h => ⟨hscope, ⟨hlocal, h⟩, rfl⟩⟩

/-- A second separator is refused, and it is the local id that is named. -/
theorem encoded_of_many {text : String} {h : Handle} (hdecode : decode text = .ok h)
    (hmany : text.toList.count separator ≠ 1) :
    h.encoded = .error (.separatorInLocalId h.localId) := by
  obtain ⟨-, -, hlocal⟩ := decode_eq_ok_iff.mp hdecode
  have hmem : separator ∈ h.localId.toList := by
    rw [count_separator hdecode] at hmany
    exact List.count_pos_iff.mp (by omega)
  rw [encoded, encode, if_neg (by rw [hlocal]; exact Bool.false_ne_true),
    if_pos (List.contains_iff_mem.mpr hmem)]

/-! ## The laws -/

/-- A reason is given as an invalid argument. -/
def IsInvalidArgument (why : BadArgument) : Prop :=
  (Fault.argument why).title = "InvalidArgumentError" ∧
    (Fault.argument why).code? = some .invalidArgument

theorem isInvalidArgument (why : BadArgument) : IsInvalidArgument why := ⟨rfl, rfl⟩

/-- What an encoder of handles owes. -/
structure EncoderLaw (encode : String → String → Except BadArgument String)
    (decode : String → Except BadArgument Handle) : Prop where
  /-- It takes parts and nothing else. -/
  accepts_iff : ∀ scope localId,
    (∃ text, encode scope localId = .ok text) ↔ IsPart scope ∧ IsPart localId
  decoded : ∀ scope localId text,
    encode scope localId = .ok text → decode text = .ok ⟨scope, localId⟩
  injective : ∀ scope scope' localId localId' text,
    encode scope localId = .ok text → encode scope' localId' = .ok text →
      scope = scope' ∧ localId = localId'
  /-- What it refuses it refuses for what is wrong with one of the two. -/
  rejects : ∀ scope localId why, encode scope localId = .error why →
    IsInvalidArgument why ∧
      (why = .emptyLocalId ∨ why = .separatorInLocalId localId ∨ why = .emptyScope ∨
        why = .separatorInScope scope)

/-- What a decoder of handles owes, and the encoder of what it gave. -/
structure DecoderLaw (decode : String → Except BadArgument Handle)
    (encoded : Handle → Except BadArgument String) : Prop where
  /-- It takes a text with something before its first separator and something behind it. -/
  accepts_iff : ∀ text : String, (∃ h, decode text = .ok h) ↔
    ∃ before rest, text.toList = before ++ separator :: rest ∧ separator ∉ before ∧
      before ≠ [] ∧ rest ≠ []
  scope_free : ∀ text h, decode text = .ok h → separator ∉ h.scope.toList
  joined : ∀ text h, decode text = .ok h →
    h.scope ++ String.singleton separator ++ h.localId = text
  /-- A handle comes back if it has one separator only. -/
  encoded_once : ∀ (text : String) h, decode text = .ok h →
    text.toList.count separator = 1 → encoded h = .ok text
  encoded_many : ∀ (text : String) h, decode text = .ok h →
    text.toList.count separator ≠ 1 →
      ∃ why, encoded h = .error why ∧ IsInvalidArgument why
  /-- What it refuses is named whole. -/
  rejects : ∀ text why, decode text = .error why →
    IsInvalidArgument why ∧ why = .malformedHandle text

theorem decode_accepts_iff (text : String) : (∃ h, decode text = .ok h) ↔
    ∃ before rest, text.toList = before ++ separator :: rest ∧ separator ∉ before ∧
      before ≠ [] ∧ rest ≠ [] := by
  constructor
  · rintro ⟨h, hdecode⟩
    obtain ⟨htext, hscope, hlocal⟩ := decode_eq_ok_iff.mp hdecode
    exact ⟨_, _, htext, hscope.free, toList_ne_nil_iff.mpr hscope.given,
      toList_ne_nil_iff.mpr hlocal⟩
  · rintro ⟨before, rest, htext, hfree, hbefore, hrest⟩
    refine ⟨⟨String.ofList before, String.ofList rest⟩, decode_eq_ok_iff.mpr ⟨?_, ⟨?_, ?_⟩, ?_⟩⟩
    · rw [String.toList_ofList, String.toList_ofList, htext]
    · rwa [← toList_ne_nil_iff, String.toList_ofList]
    · rwa [String.toList_ofList]
    · rwa [← toList_ne_nil_iff, String.toList_ofList]

theorem decode_joined {text : String} {h : Handle} (hdecode : decode text = .ok h) :
    h.scope ++ String.singleton separator ++ h.localId = text := by
  obtain ⟨htext, -, -⟩ := decode_eq_ok_iff.mp hdecode
  rw [← String.toList_inj, htext, String.toList_append, String.toList_append,
    String.toList_singleton, List.append_assoc, List.singleton_append]

/-- **The codec of handles is exact.** Parts and nothing else are encoded, and come back; a text is
decoded exactly if there is something on both sides of its first separator, is its parts put
together, and comes back from them exactly if that separator is its only one. -/
theorem codec_exact : EncoderLaw encode decode ∧ DecoderLaw decode encoded where
  left :=
    { accepts_iff := fun scope localId => by
        constructor
        · rintro ⟨text, h⟩
          obtain ⟨hscope, hlocal, -⟩ := encode_eq_ok_iff.mp h
          exact ⟨hscope, hlocal⟩
        · rintro ⟨hscope, hlocal⟩
          exact encode_of_isPart hscope hlocal
      decoded := fun _ _ _ => decode_encode
      injective := fun _ _ _ _ _ => encode_injective
      rejects := fun _ _ why h => ⟨isInvalidArgument why, encode_eq_error h⟩ }
  right :=
    { accepts_iff := decode_accepts_iff
      scope_free := fun _ _ h => (isPart_scope h).free
      joined := fun _ _ => decode_joined
      encoded_once := fun _ _ h => (encoded_eq_ok_iff h).mpr
      encoded_many := fun _ _ h hmany => ⟨_, encoded_of_many h hmany, isInvalidArgument _⟩
      rejects := fun _ why h => ⟨isInvalidArgument why, decode_eq_error h⟩ }

end BlockStorage.Handle
