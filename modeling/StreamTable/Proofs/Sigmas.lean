import StreamTable.Proofs.IdentityOrder
import StreamTable.Proofs.Words

/-! Texts that differ in sigmas only. The lower case of a text is that of its letters up to
the sigmas at the ends of words. No sigma decomposes, takes part in a composition or has a
class, so texts that agree up to sigmas are decomposed, composed, collapsed and put in lower
case alike. -/

namespace StreamTable

open Unicode

namespace Key

theorem medial_eq_self {c : Char} (other : c ≠ finalSigma) : medial c = c := if_neg other

theorem combiningClass_medial (c : Char) : combiningClass (medial c) = combiningClass c := by
  by_cases final : c = finalSigma
  · rw [final]
    decide +kernel
  · rw [medial_eq_self final]

theorem lower_sigmas : lower finalSigma = [finalSigma] ∧ lower smallSigma = [smallSigma] := by decide +kernel

theorem lower_medial (c : Char) : lower (medial c) = (lower c).map medial := by
  by_cases final : c = finalSigma
  · rw [final, lower_sigmas.1]
    exact lower_sigmas.2
  · rw [medial_eq_self final]
    have absent : finalSigma ∉ lower c := by
      by_cases fixed : lower c = [c]
      · rw [fixed, List.mem_singleton]
        exact Ne.symm final
      · exact fun member => ((lowered_of_lower_ne fixed).2 finalSigma member).2.2 rfl
    have same : (lower c).map medial = (lower c).map id :=
      List.map_congr_left fun part member => medial_eq_self fun final => absent (final ▸ member)
    rw [same, List.map_id]

theorem flatMap_lower_medial (text : List Char) : (text.map medial).flatMap lower = (text.flatMap lower).map medial := by
  rw [List.flatMap_map, List.map_flatMap]
  exact List.flatMap_congr fun c _ => lower_medial c

theorem small_medial (c : Char) : small (medial c) = medial (small c) := by
  obtain ⟨first, rest, parts⟩ := List.exists_cons_of_ne_nil (lower_ne_nil c)
  simp [small, lower_medial, parts]

theorem decompose_sigmas :
    decompose finalSigma = [finalSigma] ∧ decompose smallSigma = [smallSigma] ∧ decompose capitalSigma = [capitalSigma] := by
  decide +kernel

theorem capitalSigma_mem_decompose : capitalSigma ∈ decompose capitalSigma := by
  rw [decompose_sigmas.2.2]
  exact List.mem_singleton_self _

theorem map_medial_nfkd (text : List Char) : (nfkd (text.map medial)).map medial = (nfkd text).map medial := by
  have parts : ((text.map medial).flatMap decompose).map medial = (text.flatMap decompose).map medial := by
    rw [List.flatMap_map, List.map_flatMap, List.map_flatMap]
    refine List.flatMap_congr fun c _ => ?_
    by_cases final : c = finalSigma
    · rw [final, decompose_sigmas.1]
      show (decompose smallSigma).map medial = _
      rw [decompose_sigmas.2.1]
      rfl
    · rw [medial_eq_self final]
  rw [nfkd, nfkd, ← orderMarks_map combiningClass_medial, ← orderMarks_map combiningClass_medial, parts]

theorem map_medial_nfkd_eq {first second : List Char} (alike : first.map medial = second.map medial) :
    (nfkd first).map medial = (nfkd second).map medial := by
  rw [← map_medial_nfkd first, alike, map_medial_nfkd]

/-- No sigma is composed or takes part in a composition. -/
private theorem other_of_compose? {first second whole : Char} (made : compose? first second = some whole) :
    ∀ sigma ∈ [capitalSigma, smallSigma, finalSigma], first ≠ sigma ∧ second ≠ sigma ∧ whole ≠ sigma := by
  intro sigma member
  rcases compose?_cases made with syllable | listed
  · obtain ⟨firstHeld, secondHeld, wholeHeld⟩ := Hangul.isHangul_of_compose? syllable
    have apart : [capitalSigma, smallSigma, finalSigma].all fun sigma => !Hangul.isHangul sigma.toNat := by decide +kernel
    have alphabetic := List.all_eq_true.mp apart sigma member
    refine ⟨?_, ?_, ?_⟩
    all_goals
      rintro rfl
      simp_all
  · have passed := listed
      (fun first second whole => [capitalSigma, smallSigma, finalSigma].all fun sigma =>
        first != sigma && second != sigma && whole != sigma)
      (by decide +kernel)
    simpa [and_assoc] using List.all_eq_true.mp passed sigma member

theorem compose?_medial (first second : Char) : compose? (medial first) (medial second) = (compose? first second).map medial := by
  have final : finalSigma ∈ [capitalSigma, smallSigma, finalSigma] := by decide
  have small : smallSigma ∈ [capitalSigma, smallSigma, finalSigma] := by decide
  have kept : ∀ c, medial c ≠ smallSigma → medial c = c := by
    intro c other
    by_cases same : c = finalSigma
    · rw [same] at other
      exact absurd rfl other
    · exact medial_eq_self same
  cases made : compose? first second with
  | some whole =>
    obtain ⟨firstOther, secondOther, wholeOther⟩ := other_of_compose? made finalSigma final
    rw [medial_eq_self firstOther, medial_eq_self secondOther, made, Option.map_some, medial_eq_self wholeOther]
  | none =>
    cases joined : compose? (medial first) (medial second) with
    | none => rfl
    | some whole =>
      obtain ⟨firstOther, secondOther, -⟩ := other_of_compose? joined smallSigma small
      rw [kept first firstOther, kept second secondOther, made] at joined
      cases joined

theorem compose_map_medial (text : List Char) : compose (text.map medial) = (compose text).map medial :=
  compose_map combiningClass_medial compose?_medial text

theorem capitalSigma_mem_nfkc_iff (text : List Char) : capitalSigma ∈ nfkc text ↔ capitalSigma ∈ nfkd text := by
  have itself : ∀ c ∈ nfkc text, capitalSigma ∈ decompose c → c = capitalSigma := by
    apply nfkc_forall
    · intro first second whole made before behind member
      obtain ⟨firstOther, secondOther, -⟩ := other_of_compose? made capitalSigma (by simp)
      rw [decompose_of_compose? made, List.mem_append] at member
      rcases member with first | second
      · exact absurd (before first) firstOther
      · exact absurd (behind second) secondOther
    · intro c _ part inside member
      rw [decompose_part inside, List.mem_singleton] at member
      exact member.symm
  rw [← nfkd_nfkc]
  constructor
  · exact fun member => mem_nfkd member capitalSigma_mem_decompose
  · intro member
    obtain ⟨c, held, inside⟩ := exists_of_mem_nfkd member
    exact itself c held inside ▸ held

theorem keepsBlanks_lower : KeepsBlanks fun text => text.flatMap lower := by
  apply keepsBlanks_flatMap
  · intro c blank
    by_contra other
    simp [not_isBlank_of_isCased (capital_of_lower_ne other).cased.1] at blank
  · intro c solid
    refine ⟨lower_ne_nil c, ?_⟩
    by_cases fixed : lower c = [c]
    · simpa [fixed] using solid
    · exact fun part member => ((lowered_of_lower_ne fixed).2 part member).2.1

theorem medial_of_isBlank {c : Char} (blank : isBlank c) : medial c = c := by
  have solid : isBlank finalSigma = false := by decide +kernel
  apply medial_eq_self
  rintro rfl
  simp [solid] at blank

theorem keepsBlanks_medial : KeepsBlanks fun text => text.flatMap fun c => [medial c] := by
  have solid : isBlank smallSigma = false := by decide +kernel
  apply keepsBlanks_flatMap
  · intro c blank
    rw [medial_of_isBlank blank]
  · intro c visible
    refine ⟨List.cons_ne_nil _ _, ?_⟩
    by_cases final : c = finalSigma
    · simpa [final, medial] using solid
    · simpa [medial_eq_self final] using visible

theorem collapse_flatMap_lower (text : List Char) : collapse (text.flatMap lower) = (collapse text).flatMap lower :=
  collapse_flatMap keepsBlanks_lower (by decide +kernel) text

theorem collapse_map_medial (text : List Char) : collapse (text.map medial) = (collapse text).map medial := by
  rw [List.map_eq_flatMap, List.map_eq_flatMap]
  exact collapse_flatMap keepsBlanks_medial (by decide +kernel) text

theorem map_medial_collapse_lowerText (text : List Char) :
    (collapse (lowerText text)).map medial = ((collapse text).flatMap lower).map medial := by
  rw [← collapse_map_medial, map_medial_lowerText, collapse_map_medial, collapse_flatMap_lower]

end Key

end StreamTable
