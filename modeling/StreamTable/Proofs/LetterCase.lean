import StreamTable.Proofs.SmallLetters

/-! Lower case before and after decomposition. A level that drops marks and case sees
the same letters in a character and in its lower case, with one exception, the capital
lunate sigma. Normal forms do not hold that character. -/

namespace StreamTable

namespace Unicode

/-- The capital lunate sigma decomposes to another character, so it is neither part of a
decomposition nor composed. -/
theorem capitalLunateSigma_not_mem_nfkc (text : List Char) : capitalLunateSigma ∉ nfkc text := by
  have others : ∀ c ∈ nfkc text, c ≠ capitalLunateSigma := by
    apply nfkc_forall
    · exact fun first second whole made _ _ => ne_capitalLunateSigma_of_compose? made
    · intro c _ part inside same
      have fixed := decompose_part inside
      rw [same, decompose_capitalLunateSigma] at fixed
      exact absurd fixed (by decide)
  exact fun member => others _ member rfl

end Unicode

open Unicode

namespace Key

def letter (c : Char) : List Char := ({} : Collator).lettersOf ⟨false, false⟩ c

private theorem keeps_small (c : Char) :
    ({} : Collator).keeps ⟨false, false⟩ (small c) = ({} : Collator).keeps ⟨false, false⟩ c := by
  by_cases fixed : small c = c
  · rw [fixed]
  · obtain ⟨⟨cased, smallCased⟩, unmarked, smallUnmarked⟩ := capital_of_small_ne fixed
    simp [Collator.keeps, unmarked, smallUnmarked, isAlphanumeric_of_isCased cased, isAlphanumeric_of_isCased smallCased]

theorem flatMap_letter_lower {c : Char} (other : c ≠ capitalLunateSigma) : (lower c).flatMap letter = letter c := by
  by_cases fixed : lower c = [c]
  · simp [fixed]
  · have canonical := (canonical_of_lower_ne fixed).resolve_left other
    let keep := ({} : Collator).keeps ⟨false, false⟩
    have kept : keep ∘ small = keep := funext keeps_small
    calc (lower c).flatMap letter
        = (((lower c).flatMap decompose).filter keep).flatMap lower := by
          rw [List.filter_flatMap, List.flatMap_assoc]
          rfl
      _ = (((decompose c).map small).filter keep).flatMap lower := by rw [canonical]
      _ = ((decompose c).filter keep).flatMap fun part => lower (small part) := by
          rw [List.filter_map, kept, List.flatMap_map]
      _ = ((decompose c).filter keep).flatMap lower := by
          apply List.flatMap_congr
          intro part member
          have parts := decompose_part (List.mem_of_mem_filter member)
          rw [(lower_of_decompose_eq parts).1, lower_small]
      _ = letter c := rfl

theorem letters_eq_flatMap_lower (text : List Char) :
    ({} : Collator).letters ⟨false, false⟩ (normalizeText text) =
      ((normalizeText text).flatMap lower).flatMap letter := by
  rw [Collator.letters_eq_flatMap _ _ rfl, List.flatMap_assoc]
  apply List.flatMap_congr
  intro c member
  have other : c ≠ capitalLunateSigma := fun same => capitalLunateSigma_not_mem_nfkc _ (same ▸ member)
  exact (flatMap_letter_lower other).symm

end Key

end StreamTable
