import StreamTable.Proofs.CasedLetters
import StreamTable.Proofs.ComposedParts
import Mathlib.Data.List.Induction

/-! Lower case and normal forms. A part of a decomposition has one lower-case letter, of its
own class, so a decomposed text is put in lower case letter by letter and its marks stay
where they are. A character of a normal form may be decomposed before or after it is put in
lower case. A letter that has another case never joins the one before it. -/

namespace StreamTable.Unicode

theorem ne_capitalLunateSigma_of_compose? {first second whole : Char} (made : compose? first second = some whole) :
    whole ≠ capitalLunateSigma := by
  rintro rfl
  have parts := length_decompose_of_compose? made
  rw [decompose_capitalLunateSigma] at parts
  exact absurd parts (by decide)

private theorem lower_of_isHangul {c : Char} (held : Hangul.isHangul c.toNat) : lower c = [c] := by
  by_contra other
  simp [not_isHangul_of_isCased (capital_of_lower_ne other).cased.1] at held

private theorem canonical_of_compose? {first second whole : Char} (made : compose? first second = some whole)
    (firstSame : Canonical first) (secondSame : Canonical second) : Canonical whole := by
  by_cases alone : lower whole = [whole]
  · rcases compose?_cases made with syllable | listed
    · obtain ⟨firstHeld, secondHeld, -⟩ := Hangul.isHangul_of_compose? syllable
      have parts := decompose_of_compose? made
      rw [Canonical, lower_of_isHangul firstHeld] at firstSame
      rw [Canonical, lower_of_isHangul secondHeld] at secondSame
      rw [Canonical, alone, parts, List.map_append, ← firstSame, ← secondSame]
      simpa using parts
    · have passed := listed
        (fun first _ whole => lower whole != [whole] || decompose whole == (decompose whole).map small ||
          (lower first).flatMap decompose != (decompose first).map small)
        (by decide +kernel)
      simp only [Bool.or_eq_true, bne_iff_ne, beq_iff_eq] at passed
      rcases passed with (lowered | same) | variant
      · exact absurd alone lowered
      · rw [Canonical, alone]
        simpa using same
      · exact absurd firstSame variant
  · exact (canonical_of_lower_ne alone).resolve_left (ne_capitalLunateSigma_of_compose? made)

private theorem lower_of_compose? {first second whole : Char} (made : compose? first second = some whole)
    (firstLowered : lower first = [first]) (secondLowered : lower second = [second]) : lower whole = [whole] := by
  rcases compose?_cases made with syllable | listed
  · exact lower_of_isHangul (Hangul.isHangul_of_compose? syllable).2.2
  · have passed := listed
      (fun first second whole => lower first != [first] || lower second != [second] || lower whole == [whole])
      (by decide +kernel)
    simpa [firstLowered, secondLowered] using passed

theorem canonical_compose {text : List Char} (fixed : ∀ c ∈ text, decompose c = [c]) : ∀ c ∈ compose text, Canonical c :=
  compose_forall (fun _ _ _ => canonical_of_compose?) fun c member => canonical_of_decompose_eq (fixed c member)

theorem lower_compose {text : List Char} (lowered : ∀ c ∈ text, lower c = [c]) : ∀ c ∈ compose text, lower c = [c] :=
  compose_forall (fun _ _ _ => lower_of_compose?) lowered

theorem flatMap_lower_decompose {text : List Char} (canonical : ∀ c ∈ text, Canonical c) :
    (text.flatMap lower).flatMap decompose = (text.flatMap decompose).map small := by
  rw [List.flatMap_assoc, List.map_flatMap]
  exact List.flatMap_congr canonical

theorem size_flatMap_lower {text : List Char} (canonical : ∀ c ∈ text, Canonical c) : size (text.flatMap lower) = size text := by
  rw [size, flatMap_lower_decompose canonical, List.length_map, size]

theorem size_map_small {text : List Char} (parts : ∀ c ∈ text, decompose c = [c]) : size (text.map small) = size text := by
  have smallParts : ∀ c ∈ text.map small, decompose c = [c] := by
    intro c member
    obtain ⟨part, held, rfl⟩ := List.mem_map.mp member
    exact (lower_of_decompose_eq (parts part held)).2
  rw [size_of_fixed smallParts, size_of_fixed parts, List.length_map]

/-- A normal form in lower case decomposes to the lower case of what the text does. -/
theorem nfkd_flatMap_lower (text : List Char) : nfkd ((nfkc text).flatMap lower) = (nfkd text).map small := by
  have canonical := canonical_compose (decomposed_nfkd text).fixed
  calc nfkd ((nfkc text).flatMap lower)
      = orderMarks (((nfkc text).flatMap decompose).map small) := by rw [nfkd, nfkc, flatMap_lower_decompose canonical]
    _ = (nfkd (nfkc text)).map small := orderMarks_map combiningClass_small _
    _ = (nfkd text).map small := by rw [nfkd_nfkc]

private theorem opens_of_isCased {c : Char} (cased : isCased c) (unmarked : isMark c = false) : Opens c where
  starts := combiningClass_of_not_isMark unmarked
  unjoined first := by
    cases made : compose? first c with
    | none => rfl
    | some whole =>
      rcases compose?_cases made with syllable | listed
      · have held := (Hangul.isHangul_of_compose? syllable).2.1
        simp [not_isHangul_of_isCased cased] at held
      · have passed := listed (fun _ second _ => !isCased second || combiningClass second != 0) (by decide +kernel)
        simp [cased, combiningClass_of_not_isMark unmarked] at passed

theorem Capital.opens {c : Char} (capital : Capital c) : Opens c ∧ Opens (small c) where
  left := opens_of_isCased capital.cased.1 capital.unmarked.1
  right := opens_of_isCased capital.cased.2 capital.unmarked.2

/-- Some letters of the first text, or all or none, are in lower case in the second one. -/
def Lowering (whole lowered : List Char) : Prop :=
  List.Forall₂ (fun c other => other = c ∨ other = small c) whole lowered

/-- A text is cut at its last capital. -/
@[elab_as_elim]
theorem capital_induction {property : List Char → Prop} (solid : ∀ text, (∀ c ∈ text, small c = c) → property text)
    (cut : ∀ front c rest, small c ≠ c → (∀ c ∈ rest, small c = c) → property front → property (front ++ c :: rest))
    (text : List Char) : property text := by
  have before : ∀ rest, (∀ c ∈ rest, small c = c) → property (text ++ rest) := by
    induction text using List.reverseRecOn with
    | nil => exact solid
    | append_singleton front c ih =>
      intro rest lowered
      rw [List.append_assoc, List.singleton_append]
      by_cases fixed : small c = c
      · exact ih (c :: rest) (List.forall_mem_cons.mpr ⟨fixed, lowered⟩)
      · have front := ih [] (by simp)
        rw [List.append_nil] at front
        exact cut _ c rest fixed lowered front
  have whole := before [] (by simp)
  rwa [List.append_nil] at whole

namespace Lowering

theorem eq_self {text lowered : List Char} (lowering : Lowering text lowered) (fixed : ∀ c ∈ text, small c = c) :
    lowered = text := by
  induction lowering with
  | nil => rfl
  | cons head _ ih =>
    obtain ⟨own, others⟩ := List.forall_mem_cons.mp fixed
    rw [ih others, head.elim id fun same => same.trans own]

theorem map_small {text lowered : List Char} (lowering : Lowering text lowered) : lowered.map small = text.map small := by
  induction lowering with
  | nil => rfl
  | @cons c other _ _ head _ ih =>
    have same : small other = small c := by
      rcases head with rfl | rfl
      · rfl
      · exact small_small c
    rw [List.map_cons, List.map_cons, same, ih]

theorem exists_of_mem {text lowered : List Char} (lowering : Lowering text lowered) {other : Char} (member : other ∈ lowered) :
    ∃ c ∈ text, other = c ∨ other = small c := by
  induction lowering with
  | nil => cases member
  | @cons c _ _ _ head _ ih =>
    rcases List.mem_cons.mp member with rfl | inside
    · exact ⟨c, List.mem_cons_self, head⟩
    · obtain ⟨part, held, same⟩ := ih inside
      exact ⟨part, List.mem_cons_of_mem c held, same⟩

theorem split {front rest lowered : List Char} {c : Char} (lowering : Lowering (front ++ c :: rest) lowered) :
    ∃ before other behind, lowered = before ++ other :: behind ∧ Lowering front before ∧ (other = c ∨ other = small c) ∧
      Lowering rest behind := by
  induction front generalizing lowered with
  | nil =>
    obtain ⟨other, behind, head, tail, rfl⟩ := List.forall₂_cons_left_iff.mp lowering
    exact ⟨[], other, behind, rfl, .nil, head, tail⟩
  | cons first front ih =>
    obtain ⟨other, tail, head, later, rfl⟩ := List.forall₂_cons_left_iff.mp lowering
    obtain ⟨before, middle, behind, rfl, fronts, own, rests⟩ := ih later
    exact ⟨other :: before, middle, behind, rfl, .cons head fronts, own, rests⟩

end Lowering

/-- Where the lower case of a composed text is composed, letters may be put in lower case
before the text is composed. -/
theorem flatMap_lower_compose {text lowered : List Char} (parts : ∀ c ∈ text, decompose c = [c])
    (lowering : Lowering text lowered) (composed : compose (text.map small) = (compose text).flatMap lower) :
    (compose lowered).flatMap lower = (compose text).flatMap lower := by
  induction text using capital_induction generalizing lowered with
  | solid text fixed => rw [lowering.eq_self fixed]
  | cut front c rest other fixed ih =>
    obtain ⟨before, second, behind, rfl, fronts, own, rests⟩ := lowering.split
    cases rests.eq_self fixed
    obtain ⟨frontParts, behindParts⟩ := List.forall_mem_append.mp parts
    obtain ⟨-, restParts⟩ := List.forall_mem_cons.mp behindParts
    obtain ⟨opens, smallOpens⟩ := (capital_of_small_ne other).opens
    have restSame : rest.map small = rest := (List.map_congr_left fixed).trans (List.map_id rest)
    rw [List.map_append, List.map_cons, restSame, compose_append smallOpens, compose_append opens, List.flatMap_append] at composed
    have sizes : size (compose (front.map small)) = size ((compose front).flatMap lower) := by
      rw [size_flatMap_lower (canonical_compose frontParts), size_compose, size_compose, size_map_small frontParts]
    obtain ⟨frontComposed, restComposed⟩ := append_inj_of_size composed sizes
    have frontSame := ih frontParts fronts frontComposed
    rcases own with rfl | rfl
    · rw [compose_append opens, compose_append opens, List.flatMap_append, List.flatMap_append, frontSame]
    · have lowered : ∀ part ∈ rest, lower part = [part] := by
        intro part member
        rw [(lower_of_decompose_eq (restParts part member)).1, fixed part member]
      have restLowered := lower_compose (List.forall_mem_cons.mpr ⟨lower_small c, lowered⟩)
      rw [compose_append smallOpens, compose_append opens, List.flatMap_append, List.flatMap_append, frontSame,
        ← restComposed, flatMap_eq_self restLowered]

end StreamTable.Unicode
