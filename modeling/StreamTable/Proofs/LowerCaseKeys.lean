import StreamTable.Proofs.Sigmas
import StreamTable.Proofs.TidyKeys

/-! Keys that differ in case. A key is composed before it is put in lower case, and some
small letters compose with a mark where the capital does not. So an identity need not be in
normal form, and then it is not its own identity and the key in lower case has another one.
Where an identity is composed, the key in lower case has the same identity, but for the
sigmas at the ends of words. -/

namespace StreamTable

open Unicode

namespace Key

theorem map_medial_identityText (text : List Char) :
    (identityText text).map medial = ((normalizeText text).flatMap lower).map medial := map_medial_lowerText _

theorem map_small_map_medial (text : List Char) : (text.map medial).map small = (text.map small).map medial := by
  rw [List.map_map, List.map_map]
  exact List.map_congr_left fun c _ => small_medial c

theorem map_medial_nfkd_identityText (text : List Char) :
    (nfkd (identityText text)).map medial = ((nfkd (collapse text)).map small).map medial := by
  rw [map_medial_nfkd_eq (map_medial_identityText text), normalizeText, nfkd_flatMap_lower]

private theorem lower_of_medial_eq {a b : Char} (alike : medial a = medial b) (lowered : lower b = [b]) : lower a = [a] := by
  by_cases final : a = finalSigma
  · rw [final]
    exact lower_sigmas.1
  · rw [medial_eq_self final] at alike
    have small := lower_medial b
    rwa [lowered, List.map_singleton, ← alike] at small

theorem lower_of_mem_nfkd_identityText {text : List Char} {part : Char} (member : part ∈ nfkd (identityText text)) :
    lower part = [part] := by
  have shown : medial part ∈ ((nfkd (collapse text)).map small).map medial := by
    rw [← map_medial_nfkd_identityText]
    exact List.mem_map_of_mem member
  obtain ⟨lowered, held, alike⟩ := List.mem_map.mp shown
  obtain ⟨c, -, rfl⟩ := List.mem_map.mp held
  exact lower_of_medial_eq alike.symm (lower_small c)

theorem identityText_identityText (text : List Char) :
    identityText (identityText text) = normalizeText (identityText text) := by
  have lowered : ∀ c ∈ normalizeText (identityText text), lower c = [c] := by
    apply lower_compose
    intro part member
    obtain ⟨c, held, inside⟩ := exists_of_mem_nfkd member
    cases blank : isBlank c with
    | true =>
      have space : lower ' ' = [' '] := by decide +kernel
      rw [spaces_collapse _ c held blank, decompose_space, List.mem_singleton] at inside
      rwa [inside]
    | false =>
      apply lower_of_mem_nfkd_identityText
      exact mem_nfkd ((mem_collapse_iff blank).mp held) inside
  have absent : capitalSigma ∉ normalizeText (identityText text) := by
    intro member
    exact absurd (lowered _ member) (by decide +kernel)
  rw [identityText, lowerText_eq_flatMap absent, flatMap_eq_self lowered]

theorem tidy_identityText_iff (text : List Char) : Tidy (identityText text) ↔ Tidy (normalizeText text) := by
  have alike := map_medial_identityText text
  rw [List.map_eq_flatMap, List.map_eq_flatMap] at alike
  rw [← keepsBlanks_medial.tidy_iff, alike, keepsBlanks_medial.tidy_iff, keepsBlanks_lower.tidy_iff]

theorem spaces_identityText (text : List Char) : ∀ c ∈ identityText text, isBlank c → c = ' ' := by
  intro c member blank
  have shown : c ∈ (identityText text).map medial := List.mem_map.mpr ⟨c, member, medial_of_isBlank blank⟩
  rw [map_medial_identityText, List.map_eq_flatMap] at shown
  have lowered := keepsBlanks_medial.mem_of_blank shown blank
  exact spaces_normalizeText text c (keepsBlanks_lower.mem_of_blank lowered blank) blank

theorem identityText_identityText_iff (text : List Char) :
    identityText (identityText text) = identityText text ↔
      Tidy (normalizeText text) ∧ nfkc (identityText text) = identityText text := by
  rw [identityText_identityText, normalizeText_eq_self_iff, tidy_identityText_iff]
  exact ⟨fun ⟨tidy, _, composed⟩ => ⟨tidy, composed⟩, fun ⟨tidy, composed⟩ => ⟨tidy, spaces_identityText text, composed⟩⟩

/-- Letter by letter, a text decomposes to the same before and after it is put in lower case,
or to lower case. The lunate sigma becomes a final one. -/
private theorem forall₂_nfkd_lower (text : List Char) :
    List.Forall₂ (fun c other => other = c ∨ other = small c ∨ c = capitalSigma ∧ other = finalSigma)
      (nfkd text) (nfkd (text.flatMap lower)) := by
  apply forall₂_orderMarks
  · rintro c other (rfl | rfl | ⟨rfl, rfl⟩)
    · rfl
    · exact (combiningClass_small c).symm
    · decide +kernel
  · induction text with
    | nil => exact .nil
    | cons c rest ih =>
      rw [List.flatMap_cons, List.flatMap_cons, List.flatMap_append]
      refine List.rel_append ?_ ih
      by_cases fixed : lower c = [c]
      · rw [fixed, List.flatMap_singleton]
        exact List.forall₂_same.mpr fun part _ => Or.inl rfl
      · by_cases lunate : c = capitalLunateSigma
        · rw [lunate]
          have parts : decompose capitalLunateSigma = [capitalSigma] ∧ (lower capitalLunateSigma).flatMap decompose = [finalSigma] := by
            decide +kernel
          rw [parts.1, parts.2]
          exact .cons (Or.inr (Or.inr ⟨rfl, rfl⟩)) .nil
        · have canonical := (canonical_of_lower_ne fixed).resolve_left lunate
          rw [canonical]
          exact List.forall₂_map_right_iff.mpr (List.forall₂_same.mpr fun part _ => Or.inr (Or.inl rfl))

theorem lowering_of_absent {text : List Char} (absent : capitalSigma ∉ nfkd text) :
    Lowering (nfkd text) (nfkd (text.flatMap lower)) := by
  have other : ∀ c ∈ nfkd text, c ≠ capitalSigma := fun c member same => absent (same ▸ member)
  have both := (List.forall₂_and_left _ _).mpr ⟨other, forall₂_nfkd_lower text⟩
  refine both.imp ?_
  rintro c other ⟨own, same | same | ⟨capital, -⟩⟩
  · exact Or.inl same
  · exact Or.inr same
  · exact absurd capital own

theorem lowering_map_medial (text : List Char) :
    Lowering ((nfkd text).map medial) ((nfkd (text.flatMap lower)).map medial) := by
  apply List.forall₂_map_left_iff.mpr
  apply List.forall₂_map_right_iff.mpr
  refine (forall₂_nfkd_lower text).imp ?_
  rintro c other (rfl | rfl | ⟨rfl, rfl⟩)
  · exact Or.inl rfl
  · exact Or.inr (small_medial c).symm
  · right
    decide +kernel

theorem map_medial_nfkd_collapse_lowerText (text : List Char) :
    (nfkd (collapse (lowerText text))).map medial = (nfkd ((collapse text).flatMap lower)).map medial :=
  map_medial_nfkd_eq (map_medial_collapse_lowerText text)

theorem map_medial_nfkd_lowerText (text : List Char) :
    (nfkd (identityText (lowerText text))).map medial = (nfkd (identityText text)).map medial := by
  have lowered := (lowering_map_medial (collapse text)).map_small
  rw [map_medial_nfkd_identityText, map_medial_nfkd_identityText, ← map_small_map_medial, ← map_small_map_medial,
    map_medial_nfkd_collapse_lowerText, lowered]

/-- Where an identity is composed, the key in lower case has the same one, but for sigmas. -/
theorem map_medial_identityText_lowerText {text : List Char} (composed : nfkc (identityText text) = identityText text) :
    (identityText (lowerText text)).map medial = (identityText text).map medial := by
  have shown : ∀ text, (identityText text).map medial = (compose ((nfkd (collapse text)).map medial)).flatMap lower := by
    intro text
    calc (identityText text).map medial
        = ((compose (nfkd (collapse text))).flatMap lower).map medial := map_medial_identityText text
      _ = ((compose (nfkd (collapse text))).map medial).flatMap lower := (flatMap_lower_medial _).symm
      _ = (compose ((nfkd (collapse text)).map medial)).flatMap lower := by rw [compose_map_medial]
  have parts : ∀ c ∈ (nfkd (collapse text)).map medial, decompose c = [c] := by
    intro c member
    obtain ⟨part, held, rfl⟩ := List.mem_map.mp member
    by_cases final : part = finalSigma
    · rw [final]
      exact decompose_sigmas.2.1
    · rw [medial_eq_self final]
      exact (decomposed_nfkd _).fixed part held
  have same : compose (((nfkd (collapse text)).map medial).map small) =
      (compose ((nfkd (collapse text)).map medial)).flatMap lower := by
    calc compose (((nfkd (collapse text)).map medial).map small)
        = compose ((nfkd (identityText text)).map medial) := by rw [map_small_map_medial, map_medial_nfkd_identityText]
      _ = (nfkc (identityText text)).map medial := compose_map_medial _
      _ = (identityText text).map medial := by rw [composed]
      _ = (compose ((nfkd (collapse text)).map medial)).flatMap lower := shown text
  rw [shown, shown, map_medial_nfkd_collapse_lowerText]
  exact flatMap_lower_compose parts (lowering_map_medial _) same

/-- Without capital sigmas, whose lower case depends on what stands around them, it has the
very same one. -/
theorem identityText_lowerText {text : List Char} (absent : capitalSigma ∉ normalizeText text)
    (composed : nfkc (identityText text) = identityText text) : identityText (lowerText text) = identityText text := by
  have partsAbsent : capitalSigma ∉ nfkd (collapse text) := fun member => absent ((capitalSigma_mem_nfkc_iff _).mpr member)
  have textAbsent : capitalSigma ∉ text := by
    have solid : isBlank capitalSigma = false := by decide +kernel
    intro member
    apply partsAbsent
    exact mem_nfkd ((mem_collapse_iff solid).mpr member) capitalSigma_mem_decompose
  have lowering := lowering_of_absent partsAbsent
  have lowered : normalizeText (lowerText text) = nfkc ((collapse text).flatMap lower) := by
    rw [lowerText_eq_flatMap textAbsent, normalizeText, collapse_flatMap_lower]
  have loweredAbsent : capitalSigma ∉ normalizeText (lowerText text) := by
    rw [lowered, capitalSigma_mem_nfkc_iff]
    intro member
    obtain ⟨c, held, rfl | same⟩ := lowering.exists_of_mem member
    · exact partsAbsent held
    · have fixed := lower_small c
      rw [← same] at fixed
      exact absurd fixed (by decide +kernel)
  have own : identityText text = (compose (nfkd (collapse text))).flatMap lower := lowerText_eq_flatMap absent
  have same : compose ((nfkd (collapse text)).map small) = (compose (nfkd (collapse text))).flatMap lower := by
    calc compose ((nfkd (collapse text)).map small)
        = compose (nfkd (identityText text)) := by rw [own, ← nfkd_flatMap_lower, nfkc]
      _ = identityText text := composed
      _ = (compose (nfkd (collapse text))).flatMap lower := own
  have other : identityText (lowerText text) = (compose (nfkd ((collapse text).flatMap lower))).flatMap lower := by
    rw [identityText, lowerText_eq_flatMap loweredAbsent, lowered, nfkc]
  rw [other, own]
  exact flatMap_lower_compose (decomposed_nfkd _).fixed lowering same

/-- A key in normal form has the identity of its lower case exactly if that is composed. -/
theorem identityText_lowerText_iff {text : List Char} (normal : normalizeText text = text) :
    identityText (lowerText text) = identityText text ↔ nfkc (identityText text) = identityText text := by
  have lowered : lowerText text = identityText text := by rw [identityText, normal]
  have tidy : Tidy (normalizeText text) := by
    rw [normal]
    exact ((normalizeText_eq_self_iff text).mp normal).1
  rw [lowered, identityText_identityText_iff]
  exact ⟨fun both => both.2, fun composed => ⟨tidy, composed⟩⟩

/-- A key whose identity is composed and whose normal form has no capital sigma. -/
structure Foldable (key : String) : Prop where
  composed : nfkc (identity key).toList = (identity key).toList
  sigmaless : capitalSigma ∉ normalizeText key.toList

instance (key : String) : Decidable (Foldable key) :=
  decidable_of_iff (nfkc (identity key).toList = (identity key).toList ∧ capitalSigma ∉ normalizeText key.toList)
    ⟨fun ⟨composed, sigmaless⟩ => ⟨composed, sigmaless⟩, fun foldable => ⟨foldable.composed, foldable.sigmaless⟩⟩

theorem Foldable.identity_lowerCase {key : String} (foldable : Foldable key) : identity (lowerCase key) = identity key := by
  have composed := foldable.composed
  rw [identity, String.toList_ofList] at composed
  rw [identity, identity, lowerCase, String.toList_ofList, identityText_lowerText foldable.sigmaless composed]

/-- An identity is its own one exactly if it is composed and no word of the key hides a blank
at its front. Where it is composed, case does not matter to it but for the sigmas at the ends
of words, and without capital sigmas or in normal form not at all. In any case the identity of
the key in lower case decomposes to the same letters. -/
theorem identity_ignores_case (key : String) :
    (identity (identity key) = identity key ↔
        (∀ c ∈ initials key.toList, opensWithBlank c = false) ∧ nfkc (identity key).toList = (identity key).toList) ∧
      (nfkd (identity (lowerCase key)).toList).map medial = (nfkd (identity key).toList).map medial ∧
      (nfkc (identity key).toList = (identity key).toList →
        (identity (lowerCase key)).toList.map medial = (identity key).toList.map medial) ∧
      (normalize key = key →
        (identity (lowerCase key) = identity key ↔ nfkc (identity key).toList = (identity key).toList)) ∧
      (Foldable key → identity (lowerCase key) = identity key ∧
        ∀ other, Foldable other → lowerCase other = lowerCase key → identity other = identity key) := by
  have same_iff : ∀ first second : List Char, String.ofList first = String.ofList second ↔ first = second :=
    fun first second => ⟨fun same => String.ofList_injective same, congrArg String.ofList⟩
  refine ⟨?_, ?_, ?_, ?_, ?_⟩
  · simp only [identity, String.toList_ofList, same_iff]
    rw [identityText_identityText_iff, tidy_normalizeText_iff]
  · simp only [identity, lowerCase, String.toList_ofList]
    exact map_medial_nfkd_lowerText key.toList
  · simp only [identity, lowerCase, String.toList_ofList]
    exact map_medial_identityText_lowerText
  · intro normal
    have text := congrArg String.toList normal
    rw [normalize, String.toList_ofList] at text
    simp only [identity, lowerCase, String.toList_ofList, same_iff]
    exact identityText_lowerText_iff text
  · intro foldable
    refine ⟨foldable.identity_lowerCase, fun other otherFoldable same => ?_⟩
    rw [← otherFoldable.identity_lowerCase, same, foldable.identity_lowerCase]

theorem identity_ignores_case_accented :
    normalize "CAFÉ" = "CAFÉ" ∧ Foldable "CAFÉ" ∧ Foldable "CafÉ" ∧ lowerCase "CafÉ" = lowerCase "CAFÉ" ∧
      identity (lowerCase "CAFÉ") = identity "CAFÉ" ∧ identity "CafÉ" = identity "CAFÉ" := by
  have normal : normalize "CAFÉ" = "CAFÉ" := by decide +kernel
  have foldable : Foldable "CAFÉ" := by decide +kernel
  have other : Foldable "CafÉ" := by decide +kernel
  have same : lowerCase "CafÉ" = lowerCase "CAFÉ" := by decide +kernel
  obtain ⟨-, -, -, lowered, folded⟩ := identity_ignores_case "CAFÉ"
  exact ⟨normal, foldable, other, same, (lowered normal).mpr foldable.composed, (folded foldable).2 _ other same⟩

/-- A caron joins a small j, but no capital one. -/
theorem caron_joins_small_letter :
    ¬ ∀ key, identity key = identity (lowerCase key) ∧ identity (identity key) = identity key := by
  intro law
  exact absurd (law "J\u030c").1 (by decide +kernel)

end Key

end StreamTable
