import BlockStorage.Proofs.Handle.Codec
import Mathlib.Data.List.DropRight

/-!
# The region of a zone

What is left out of a zone is found by a search: from left to right, wherever
letters lead to an end of the text, as many of them as can are left out, and the
search goes on behind them. A text ends twice if a newline is its last character,
once before it and once behind. So it has to be shown that the search succeeds
once at most, and where.

A text has three parts: what is kept, the letters at its end, and a newline
behind them if it is the last character. Letters lead to an end from the start of
the second part and from nowhere before it, so this part goes and the other two
stay. A text with no letters in it, or with nothing else, is no zone.

The region of a zone is no zone again, but for one case: where the letters stood
alone on the last of several lines, what is left ends with a newline, and the
letters before that one lead to an end now.

* `ZoneParts`: the three parts; `ZoneParts.of` finds them, `ZoneParts.eq` says
  that there are no others.
* `ZoneParts.withoutLetters_eq`: what the search leaves.
* `regionOfZone_eq`: what becomes of a zone with these parts.
* `isZone_region_iff`, `endsLine_iff`: when the region of a zone is a zone.
* `region_exact`: the law of regions.
-/

namespace BlockStorage.Handle

variable {text letters rest : List Char} {zone region : String}

/-- Letters and nothing else. -/
def AreLetters (cs : List Char) : Prop := ∀ c ∈ cs, isZoneLetter c = true

/-! ## The search -/

theorem isEnd_iff : isEnd rest = true ↔ rest = [] ∨ rest = ['\n'] := by
  rw [isEnd, Bool.or_eq_true, decide_eq_true_iff, decide_eq_true_iff]

theorem lettersToEnd_of_isEnd (hend : isEnd rest = true) : lettersToEnd rest = 0 := by
  rcases isEnd_iff.mp hend with rfl | rfl <;> rfl

/-- Letters in front of an end lead to it, all of them. -/
theorem lettersToEnd_append (hletters : AreLetters letters) (hend : isEnd rest = true) :
    lettersToEnd (letters ++ rest) = letters.length := by
  induction letters with
  | nil => exact lettersToEnd_of_isEnd hend
  | cons c letters ih =>
    have hc : isZoneLetter c = true := hletters c List.mem_cons_self
    have hlength := ih fun d hd => hletters d (List.mem_cons_of_mem c hd)
    rw [List.cons_append, lettersToEnd, if_pos hc, hlength]
    cases letters with
    | nil => exact if_pos hend
    | cons d letters => rfl

/-- Only letters lead to an end. -/
theorem exists_of_lettersToEnd {cs : List Char} (h : lettersToEnd cs ≠ 0) :
    ∃ letters rest, cs = letters ++ rest ∧ AreLetters letters ∧ isEnd rest = true := by
  induction cs with
  | nil => exact absurd rfl h
  | cons c cs ih =>
    rw [lettersToEnd] at h
    split at h
    · next hc =>
      have hcons : ∀ {letters}, AreLetters letters → AreLetters (c :: letters) :=
        fun hletters => List.forall_mem_cons.mpr ⟨hc, hletters⟩
      split at h
      · next hzero =>
        split at h
        · next hend => exact ⟨[c], cs, rfl, hcons fun _ => nofun, hend⟩
        · exact absurd rfl h
      · next n hmore =>
        obtain ⟨letters, rest, rfl, hletters, hend⟩ := ih (by rw [hmore]; exact n.succ_ne_zero)
        exact ⟨c :: letters, rest, rfl, hcons hletters, hend⟩
    · exact absurd rfl h

theorem withoutLetters_skipped (letters rest : List Char) :
    withoutLetters letters.length (letters ++ rest) = withoutLetters 0 rest := by
  induction letters with
  | nil => rfl
  | cons c letters ih => exact ih

theorem withoutLetters_of_isEnd (hend : isEnd rest = true) : withoutLetters 0 rest = rest := by
  rcases isEnd_iff.mp hend with rfl | rfl <;> rfl

/-- Letters in front of an end are left out. -/
theorem withoutLetters_append (hletters : AreLetters letters) (hend : isEnd rest = true) :
    withoutLetters 0 (letters ++ rest) = rest := by
  cases letters with
  | nil => exact withoutLetters_of_isEnd hend
  | cons c letters =>
    have hlength : lettersToEnd (c :: (letters ++ rest)) = letters.length + 1 :=
      lettersToEnd_append hletters hend
    rw [List.cons_append, withoutLetters, hlength]
    dsimp only
    rw [withoutLetters_skipped, withoutLetters_of_isEnd hend]

/-! ## The parts of a text -/

/-- The parts of a text: a last newline, the longest run of letters before it, and what is kept. -/
structure ZoneParts (text : List Char) where
  kept : List Char
  letters : List Char
  newline : List Char
  whole : kept ++ letters ++ newline = text
  newline_eq : newline = if text.getLast? = some '\n' then ['\n'] else []
  areLetters : AreLetters letters
  longest : ∀ run, run <:+ kept ++ letters → AreLetters run → run <:+ letters

namespace ZoneParts

variable (p : ZoneParts text)

theorem isEnd_newline : isEnd p.newline = true := by
  rw [p.newline_eq]
  split <;> rfl

theorem newline_of_concat {front : List Char} (h : text = front ++ ['\n']) :
    p.newline = ['\n'] := by
  rw [p.newline_eq, h, List.getLast?_concat, if_pos rfl]

/-- What is kept does not end with a letter. -/
theorem not_isZoneLetter_of_kept {front : List Char} {c : Char} (h : p.kept = front ++ [c]) :
    ¬ isZoneLetter c = true := by
  intro hc
  have hrun : AreLetters (c :: p.letters) := List.forall_mem_cons.mpr ⟨hc, p.areLetters⟩
  have hsuffix : c :: p.letters <:+ p.kept ++ p.letters :=
    ⟨front, by rw [h, List.append_assoc, List.singleton_append]⟩
  have hlength := (p.longest _ hsuffix hrun).length_le
  rw [List.length_cons] at hlength
  exact Nat.not_succ_le_self _ hlength

/-- No letters of what is kept lead to an end. -/
theorem lettersToEnd_eq_zero {front back : List Char} (hkept : p.kept = front ++ back)
    (hback : back ≠ []) : lettersToEnd (back ++ p.letters ++ p.newline) = 0 := by
  by_contra hsome
  obtain ⟨run, rest, hsplit, hrun, hend⟩ := exists_of_lettersToEnd hsome
  obtain ⟨init, c, rfl⟩ := (List.eq_nil_or_concat' back).resolve_left hback
  have hlast : p.kept = front ++ init ++ [c] := by rw [hkept, List.append_assoc]
  have hmem : c ∈ init ++ [c] ++ p.letters := by simp
  -- The end that the run leads to is that of the text, so the run holds the last character kept.
  refine p.not_isZoneLetter_of_kept hlast (hrun c ?_)
  rcases isEnd_iff.mp hend with rfl | rfl
  · rw [← List.append_nil run, ← hsplit]
    exact List.mem_append_left _ hmem
  · have htext : text = front ++ run ++ ['\n'] := by
      rw [← p.whole, hkept, List.append_assoc, List.append_assoc, ← List.append_assoc (init ++ [c]),
        hsplit, List.append_assoc]
    rw [p.newline_of_concat htext] at hsplit
    rwa [← List.append_cancel_right hsplit]

theorem withoutLetters_back {front back : List Char} (hkept : p.kept = front ++ back) :
    withoutLetters 0 (back ++ p.letters ++ p.newline) = back ++ p.newline := by
  induction back generalizing front with
  | nil => exact withoutLetters_append p.areLetters p.isEnd_newline
  | cons c back ih =>
    have hnone := p.lettersToEnd_eq_zero hkept (List.cons_ne_nil c back)
    have hmoved : p.kept = front ++ [c] ++ back := by
      rw [hkept, List.append_assoc, List.singleton_append]
    rw [List.cons_append, List.cons_append] at hnone ⊢
    rw [withoutLetters, hnone]
    dsimp only
    rw [ih hmoved, List.cons_append]

/-- **The search leaves what is kept and the newline**, and all letters between them go. -/
theorem withoutLetters_eq : withoutLetters 0 text = p.kept ++ p.newline := by
  have hall := p.withoutLetters_back (List.nil_append p.kept).symm
  rwa [p.whole] at hall

theorem letters_eq_nil_iff : p.letters = [] ↔ p.kept ++ p.newline = text := by
  constructor
  · intro hnone
    rw [← List.append_nil p.kept, ← hnone, p.whole]
  · intro hsame
    have hlength := congrArg List.length (hsame.trans p.whole.symm)
    rw [List.length_append, List.length_append, List.length_append] at hlength
    exact List.eq_nil_of_length_eq_zero (by omega)

/-- There are letters at the end of a text exactly if one stands before its end. -/
theorem letters_ne_nil_iff :
    p.letters ≠ [] ↔ ∃ front c, isZoneLetter c = true ∧ text = front ++ [c] ++ p.newline := by
  constructor
  · intro hsome
    obtain ⟨init, c, hletters⟩ := (List.eq_nil_or_concat' _).resolve_left hsome
    refine ⟨p.kept ++ init, c, p.areLetters c (by rw [hletters]; simp), ?_⟩
    rw [List.append_assoc p.kept, ← hletters, p.whole]
  · rintro ⟨front, c, hc, htext⟩ hnone
    have hkept : p.kept = front ++ [c] :=
      List.append_cancel_right ((p.letters_eq_nil_iff.mp hnone).trans htext)
    exact p.not_isZoneLetter_of_kept hkept hc

/-- A text has its parts in one way only. -/
theorem eq (p q : ZoneParts text) : p = q := by
  have hnewline : p.newline = q.newline := p.newline_eq.trans q.newline_eq.symm
  have hbody : p.kept ++ p.letters = q.kept ++ q.letters := by
    refine List.append_cancel_right (p.whole.trans ?_)
    rw [hnewline, q.whole]
  have hp : p.letters <:+ q.letters :=
    q.longest _ (hbody ▸ List.suffix_append _ _) p.areLetters
  have hq : q.letters <:+ p.letters :=
    p.longest _ (hbody ▸ List.suffix_append _ _) q.areLetters
  have hletters := hp.eq_of_length_le hq.length_le
  rw [hletters] at hbody
  have hkept := List.append_cancel_right hbody
  cases p
  cases q
  simp only at hkept hletters hnewline
  simp only [hkept, hletters, hnewline]

/-- What stands before the last newline. -/
def body (text : List Char) : List Char :=
  if text.getLast? = some '\n' then text.dropLast else text

theorem body_append (text : List Char) :
    (body text ++ if text.getLast? = some '\n' then ['\n'] else []) = text := by
  rw [body]
  split
  · next hlast => exact List.dropLast_append_getLast? _ hlast
  · exact List.append_nil text

/-- The parts of a text, found from its end. -/
def of (text : List Char) : ZoneParts text where
  kept := (body text).rdropWhile isZoneLetter
  letters := (body text).rtakeWhile isZoneLetter
  newline := if text.getLast? = some '\n' then ['\n'] else []
  whole := by
    rw [List.rdropWhile_append_rtakeWhile]
    exact body_append text
  newline_eq := rfl
  areLetters _ hc := List.mem_rtakeWhile_imp hc
  longest run hrun hletters := by
    rw [List.rdropWhile_append_rtakeWhile] at hrun
    obtain ⟨front, hfront⟩ := hrun
    rw [← hfront, List.rtakeWhile, List.reverse_append,
      List.takeWhile_append_of_pos (by simpa [AreLetters] using hletters), List.reverse_append,
      List.reverse_reverse]
    exact List.suffix_append _ _

end ZoneParts

/-! ## The region -/

/-- A text that has a region. -/
def IsZone (zone : String) : Prop := ∃ region, regionOfZone zone = .ok region

/-- **What becomes of a zone with these parts.** -/
theorem regionOfZone_eq (p : ZoneParts zone.toList) :
    regionOfZone zone =
      if p.letters = [] ∨ p.kept = [] ∧ p.newline = [] then
        .error (if zone.isEmpty then .emptyZone else .notAZone zone)
      else .ok (String.ofList (p.kept ++ p.newline)) := by
  rw [regionOfZone]
  split
  · next hempty =>
    have htext : zone.toList = [] := by
      rw [String.toList_eq_nil_iff, ← String.isEmpty_iff]
      exact hempty
    have hletters : p.letters = [] :=
      (List.append_eq_nil_iff.mp (List.append_eq_nil_iff.mp (p.whole.trans htext)).1).2
    rw [if_pos (.inl hletters)]
  · next hgiven =>
    have hrefused : ((p.kept ++ p.newline).isEmpty || p.kept ++ p.newline = zone.toList) = true ↔
        p.letters = [] ∨ p.kept = [] ∧ p.newline = [] := by
      rw [Bool.or_eq_true, decide_eq_true_iff, List.isEmpty_iff, List.append_eq_nil_iff,
        ← p.letters_eq_nil_iff]
      exact or_comm
    simp only [p.withoutLetters_eq, hrefused]

theorem isZone_iff (p : ZoneParts zone.toList) :
    IsZone zone ↔ p.letters ≠ [] ∧ ¬ (p.kept = [] ∧ p.newline = []) := by
  rw [IsZone, regionOfZone_eq p, ← not_or]
  split
  · next hnone => exact ⟨fun ⟨_, h⟩ => (nomatch h), fun h => absurd hnone h⟩
  · next hsome => exact ⟨fun _ => hsome, fun _ => ⟨_, rfl⟩⟩

theorem eq_of_region (p : ZoneParts zone.toList) (h : regionOfZone zone = .ok region) :
    region.toList = p.kept ++ p.newline ∧ p.letters ≠ [] := by
  have hzone := ((isZone_iff p).mp ⟨region, h⟩).1
  rw [regionOfZone_eq p] at h
  split at h
  · cases h
  · rw [← Except.ok.inj h, String.toList_ofList]
    exact ⟨rfl, hzone⟩

theorem eq_of_refusal {why : BadArgument} (h : regionOfZone zone = .error why) :
    why = if zone.isEmpty then .emptyZone else .notAZone zone := by
  rw [regionOfZone_eq (ZoneParts.of zone.toList)] at h
  split at h
  · exact (Except.error.inj h).symm
  · cases h

/-- A letter and a newline at its end. -/
def EndsLine (region : String) : Prop :=
  ∃ front c, isZoneLetter c = true ∧ region.toList = front ++ [c] ++ ['\n']

/-- A text that a letter and a newline end is a zone. -/
theorem EndsLine.isZone (h : EndsLine region) : IsZone region := by
  obtain ⟨front, c, hc, htext⟩ := h
  let q := ZoneParts.of region.toList
  have hq := q.newline_of_concat htext
  refine (isZone_iff q).mpr ⟨q.letters_ne_nil_iff.mpr ⟨front, c, hc, hq ▸ htext⟩, fun hnone => ?_⟩
  exact List.cons_ne_nil _ _ (hq.symm.trans hnone.2)

/-- **The region of a zone is a zone only if a letter and a newline end it.** -/
theorem isZone_region_iff (h : regionOfZone zone = .ok region) :
    IsZone region ↔ EndsLine region := by
  refine ⟨fun hzone => ?_, EndsLine.isZone⟩
  let p := ZoneParts.of zone.toList
  let q := ZoneParts.of region.toList
  have hregion := (eq_of_region p h).1
  obtain ⟨front, c, hc, htext⟩ := q.letters_ne_nil_iff.mp ((isZone_iff q).mp hzone).1
  rcases isEnd_iff.mp q.isEnd_newline with hq | hq
  · -- The letter is then the last character that was kept of the zone.
    rw [hq, List.append_nil, hregion] at htext
    rcases isEnd_iff.mp p.isEnd_newline with hp | hp
    · rw [hp, List.append_nil] at htext
      exact absurd hc (p.not_isZoneLetter_of_kept htext)
    · rw [hp] at hregion
      exact absurd (hq.symm.trans (q.newline_of_concat hregion)) (List.cons_ne_nil _ _).symm
  · exact ⟨front, c, hc, hq ▸ htext⟩

/-- A letter and a newline end the region if the letters that were left out stood alone on a line,
behind one that another letter ends. -/
theorem endsLine_iff (p : ZoneParts zone.toList) (h : regionOfZone zone = .ok region) :
    EndsLine region ↔
      p.newline = [] ∧ ∃ front c, isZoneLetter c = true ∧ p.kept = front ++ [c] ++ ['\n'] := by
  have hregion := (eq_of_region p h).1
  constructor
  · rintro ⟨front, c, hc, htext⟩
    rw [hregion] at htext
    rcases isEnd_iff.mp p.isEnd_newline with hp | hp
    · rw [hp, List.append_nil] at htext
      exact ⟨hp, front, c, hc, htext⟩
    · rw [hp] at htext
      exact absurd hc (p.not_isZoneLetter_of_kept (List.append_cancel_right htext))
  · rintro ⟨hp, front, c, hc, hkept⟩
    exact ⟨front, c, hc, by rw [hregion, hp, hkept, List.append_nil]⟩

/-- The region of a region is no zone. -/
theorem not_isZone_twice {next : String} (h : regionOfZone zone = .ok region)
    (hnext : regionOfZone region = .ok next) : ¬ IsZone next := by
  intro hzone
  let q := ZoneParts.of region.toList
  obtain ⟨front, c, -, htext⟩ := (isZone_region_iff h).mp ⟨next, hnext⟩
  have hq := ((endsLine_iff q hnext).mp ((isZone_region_iff hnext).mp hzone)).1
  exact List.cons_ne_nil _ _ ((q.newline_of_concat htext).symm.trans hq)

/-! ## The law -/

/-- What is owed of the region of a text with these parts. -/
structure RegionLaw (zone : String) (p : ZoneParts zone.toList) : Prop where
  /-- A text is refused that has no letters at its end, or nothing else. -/
  refused_iff : (∃ why, regionOfZone zone = .error why) ↔
    p.letters = [] ∨ p.kept = [] ∧ p.newline = []
  rejects : ∀ why, regionOfZone zone = .error why →
    IsInvalidArgument why ∧ why = if zone.isEmpty then .emptyZone else .notAZone zone
  returned : ∀ region, regionOfZone zone = .ok region → region.toList = p.kept ++ p.newline
  given : ∀ region, regionOfZone zone = .ok region → region.isEmpty = false
  differs : ∀ region, regionOfZone zone = .ok region → region ≠ zone
  /-- Letters are left out and nothing else. -/
  shorter : ∀ region, regionOfZone zone = .ok region → ∃ front letters back,
    zone.toList = front ++ letters ++ back ∧ region.toList = front ++ back ∧
      letters ≠ [] ∧ AreLetters letters
  /-- The region is a zone itself only if the letters stood alone on a line, behind a letter. -/
  again_iff : ∀ region, regionOfZone zone = .ok region →
    (IsZone region ↔
      p.newline = [] ∧ ∃ front c, isZoneLetter c = true ∧ p.kept = front ++ [c] ++ ['\n'])
  settles : ∀ region next, regionOfZone zone = .ok region → regionOfZone region = .ok next →
    ∃ why, regionOfZone next = .error why

theorem exists_refusal_iff : (∃ why, regionOfZone zone = .error why) ↔ ¬ IsZone zone := by
  rw [IsZone]
  cases regionOfZone zone with
  | ok region => exact ⟨fun ⟨_, h⟩ => (nomatch h), fun h => absurd ⟨region, rfl⟩ h⟩
  | error why => exact ⟨fun _ ⟨_, h⟩ => (nomatch h), fun _ => ⟨why, rfl⟩⟩

/-- **The region of a zone is the zone without the letters at its end.** Every text has its parts,
in one way; without letters, or with nothing but letters, it is refused as an invalid argument, and
else what is kept of it is returned with the newline behind it. So a region is shorter by letters
alone, and is refused itself, but for one that a letter and a newline end. -/
theorem region_exact (zone : String) :
    ∃ p : ZoneParts zone.toList, (∀ q, q = p) ∧ RegionLaw zone p := by
  let p := ZoneParts.of zone.toList
  refine ⟨p, fun q => q.eq p, ?_⟩
  exact
    { refused_iff := by
        rw [exists_refusal_iff, isZone_iff p, not_and_or, not_not, not_not]
      rejects := fun why h => ⟨isInvalidArgument why, eq_of_refusal h⟩
      returned := fun _ h => (eq_of_region p h).1
      given := fun _ h => regionOfZone_given h
      differs := fun region h hsame => by
        obtain ⟨hregion, hletters⟩ := eq_of_region p h
        have hwhole := hregion.symm.trans (congrArg String.toList hsame)
        exact hletters (p.letters_eq_nil_iff.mpr hwhole)
      shorter := fun _ h =>
        ⟨p.kept, p.letters, p.newline, p.whole.symm, (eq_of_region p h).1, (eq_of_region p h).2,
          p.areLetters⟩
      again_iff := fun _ h => (isZone_region_iff h).trans (endsLine_iff p h)
      settles := fun _ _ h hnext => exists_refusal_iff.mpr (not_isZone_twice h hnext) }

/-- A zone on two lines has a region that is taken for a zone. -/
theorem region_of_two_lines_is_zone :
    regionOfZone "us-east-1a\nb" = .ok "us-east-1a\n" ∧
      ¬ ∃ why, regionOfZone "us-east-1a\n" = .error why := by
  refine ⟨rfl, ?_⟩
  rintro ⟨why, h⟩
  have hregion : regionOfZone "us-east-1a\n" = .ok "us-east-1\n" := rfl
  rw [hregion] at h
  cases h

end BlockStorage.Handle
