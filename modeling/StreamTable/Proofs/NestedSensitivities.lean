import StreamTable.Proofs.CollationOrder
import StreamTable.Proofs.Recomposition

/-! Tighter sensitivities only break ties. Every sensitivity begins with the levels of a
looser one that it refines, and the first level that tells two keys apart decides, so what
comes behind it never turns an order round. The tightest sensitivity, with punctuation
significant and digits read as characters, compares whole decompositions, and of these no
two normal forms have the same. -/

namespace StreamTable

open Unicode

namespace Collator

def withSensitivity (collator : Collator) (sensitivity : Sensitivity) : Collator := { collator with sensitivity }

private theorem cascade_settled {answers : Level → Ordering} {levels : List Level}
    (settled : levels.foldr (fun level rest => (answers level).then rest) .eq ≠ .eq) (rest : Ordering) :
    levels.foldr (fun level rest => (answers level).then rest) rest =
      levels.foldr (fun level rest => (answers level).then rest) .eq := by
  induction levels with
  | nil => exact absurd rfl settled
  | cons level levels ih =>
    simp only [List.foldr_cons] at settled ⊢
    cases answer : answers level with
    | lt => rfl
    | gt => rfl
    | eq =>
      rw [answer] at settled
      exact ih settled

variable (collator : Collator) {looser tighter : Sensitivity} {a b : String}

theorem order_of_prefix (first : looser.levels <+: tighter.levels)
    (apart : (collator.withSensitivity looser).order a b ≠ .eq) :
    (collator.withSensitivity tighter).order a b = (collator.withSensitivity looser).order a b := by
  obtain ⟨more, levels⟩ := first
  rw [order_eq_collate] at apart
  rw [order_eq_collate, order_eq_collate]
  have longer : (collator.withSensitivity tighter).sensitivity.levels = looser.levels ++ more := levels.symm
  unfold collate at apart ⊢
  rw [longer, List.foldr_append]
  exact cascade_settled apart _

theorem order_eq_of_subset (fewer : looser.levels ⊆ tighter.levels)
    (tied : (collator.withSensitivity tighter).order a b = .eq) :
    (collator.withSensitivity looser).order a b = .eq := by
  rw [order_eq_collate, collate_eq_iff] at tied ⊢
  intro level member
  exact tied level (fewer member)

/-- A collator that leaves out nothing compares the decompositions of the normal forms. -/
theorem order_strictest_eq_iff (a b : String) :
    (⟨.variant, false, false⟩ : Collator).order a b = .eq ↔ Key.normalize a = Key.normalize b := by
  have whole (text : List Char) :
      (⟨.variant, false, false⟩ : Collator).elements ⟨true, true⟩ text = (nfkd text).map .character := by
    have kept : ∀ c ∈ nfkd text, keeps ⟨.variant, false, false⟩ ⟨true, true⟩ c := fun _ _ => rfl
    simp [elements, letters, List.filter_eq_self.mpr kept]
  rw [order_eq_collate]
  constructor
  · intro tied
    rw [collate_eq_iff] at tied
    have last := tied ⟨true, true⟩ (by simp [Sensitivity.levels])
    rw [whole, whole, List.map_inj_right fun _ _ => Element.character.inj] at last
    rw [Key.normalizeText, Key.normalizeText, nfkd_nfkc, nfkd_nfkc, ← nfkc_eq_iff] at last
    rw [Key.normalize, Key.normalize, Key.normalizeText, Key.normalizeText, last]
  · intro same
    rw [String.ofList_injective same]
    exact Std.ReflCmp.compare_self

/-- What the base sensitivity tells apart, every other one orders alike, and what accents
tell apart stays so ordered where letter case counts too; keys that tie under the tightest
sensitivity tie under all. If it looks at all characters as they are, only keys of one
normal form tie. -/
theorem order_nests (a b : String) :
    ((collator.withSensitivity .base).order a b ≠ .eq →
        ∀ tighter, (collator.withSensitivity tighter).order a b = (collator.withSensitivity .base).order a b) ∧
      ((collator.withSensitivity .accent).order a b ≠ .eq →
        (collator.withSensitivity .variant).order a b = (collator.withSensitivity .accent).order a b) ∧
      ((collator.withSensitivity .variant).order a b = .eq →
        ∀ looser, (collator.withSensitivity looser).order a b = .eq) ∧
      ((⟨.variant, false, false⟩ : Collator).order a b = .eq ↔ Key.normalize a = Key.normalize b) := by
  refine ⟨fun apart tighter => ?_, fun apart => ?_, fun tied looser => ?_, order_strictest_eq_iff a b⟩
  · apply collator.order_of_prefix _ apart
    cases tighter <;> simp [Sensitivity.levels]
  · apply collator.order_of_prefix _ apart
    simp [Sensitivity.levels]
  · apply collator.order_eq_of_subset _ tied
    cases looser <;> simp [Sensitivity.levels]

/-- Keys that letters, marks or nothing at all tells apart. -/
theorem order_nests_accents :
    let collator : Collator := ⟨.base, false, true⟩
    (collator.withSensitivity .base).order "Café 9" "cafe 10" = .lt ∧
      (collator.withSensitivity .letterCase).order "Café 9" "cafe 10" =
        (collator.withSensitivity .base).order "Café 9" "cafe 10" ∧
      (collator.withSensitivity .accent).order "Café 9" "cafe 9" = .gt ∧
      (collator.withSensitivity .variant).order "Café 9" "cafe 9" =
        (collator.withSensitivity .accent).order "Café 9" "cafe 9" ∧
      (collator.withSensitivity .variant).order "cafe\u0301 09" "café 9" = .eq ∧
      (collator.withSensitivity .letterCase).order "cafe\u0301 09" "café 9" = .eq := by
  intro collator
  have letters : (collator.withSensitivity .base).order "Café 9" "cafe 10" = .lt := by decide +kernel
  have marks : (collator.withSensitivity .accent).order "Café 9" "cafe 9" = .gt := by decide +kernel
  have tied : (collator.withSensitivity .variant).order "cafe\u0301 09" "café 9" = .eq := by decide +kernel
  obtain ⟨fromBase, -, -, -⟩ := collator.order_nests "Café 9" "cafe 10"
  obtain ⟨-, fromAccent, -, -⟩ := collator.order_nests "Café 9" "cafe 9"
  obtain ⟨-, -, ties, -⟩ := collator.order_nests "cafe\u0301 09" "café 9"
  exact ⟨letters, fromBase (by simp [letters]) .letterCase, marks, fromAccent (by simp [marks]), tied, ties tied .letterCase⟩

/-- Letter case by itself does not nest: accents are looked at before it where both count. -/
example : (⟨.letterCase, true, true⟩ : Collator).order "ea" "éA" = .gt ∧
    (⟨.variant, true, true⟩ : Collator).order "ea" "éA" = .lt := by decide +kernel

end Collator

end StreamTable
