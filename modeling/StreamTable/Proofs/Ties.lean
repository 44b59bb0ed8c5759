import StreamTable.Proofs.CollationOrder
import StreamTable.Proofs.DigitRuns

/-! Which keys tie. A level sees the decomposed normal form of a key without what it leaves
out, and it tells any two texts apart that it sees. Only where digits are read as numbers
are the zeros lost that a run of digits begins with. -/

namespace StreamTable

open Unicode

/-- The levels that a sensitivity goes through: one that looks at marks only if accents are
significant, one that looks at letter case only if that is. -/
def Sensitivity.Considers (sensitivity : Sensitivity) (level : Level) : Prop :=
  (level.keepMarks → sensitivity = .accent ∨ sensitivity = .variant) ∧
    (level.keepCase → sensitivity = .letterCase ∨ sensitivity = .variant)

theorem Sensitivity.mem_levels_iff {sensitivity : Sensitivity} {level : Level} :
    level ∈ sensitivity.levels ↔ sensitivity.Considers level := by
  obtain ⟨keepMarks, keepCase⟩ := level
  cases sensitivity <;> cases keepMarks <;> cases keepCase <;> simp [levels, Considers]

namespace Collator

variable (collator : Collator)

/-- The characters of a key that a level sees: those of the decomposed normal form, less the
marks and the punctuation that do not count, and in lower case where case does not. -/
def seen (level : Level) (key : String) : List Char :=
  let decomposed := nfkd (Key.normalize key).toList
  let marked := if level.keepMarks then decomposed else decomposed.filter fun c => !isMark c
  let spoken := if collator.ignorePunctuation then marked.filter fun c => isAlphanumeric c || isMark c else marked
  if level.keepCase then spoken else spoken.flatMap lower

def compared (level : Level) (key : String) : List Char :=
  if collator.numeric then trimmed (collator.seen level key) else collator.seen level key

private theorem filter_keeps (level : Level) (text : List Char) :
    text.filter (collator.keeps level) =
      let marked := if level.keepMarks then text else text.filter fun c => !isMark c
      if collator.ignorePunctuation then marked.filter fun c => isAlphanumeric c || isMark c else marked := by
  cases marks : level.keepMarks with
  | true =>
    cases punctuation : collator.ignorePunctuation with
    | true => exact List.filter_congr fun c _ => by simp [keeps, marks, punctuation]
    | false => exact List.filter_eq_self.mpr fun c _ => by simp [keeps, marks, punctuation]
  | false =>
    cases punctuation : collator.ignorePunctuation with
    | true =>
      simp only [Bool.false_eq_true, ite_true, ite_false, List.filter_filter]
      refine List.filter_congr fun c _ => ?_
      cases mark : isMark c <;> simp [keeps, marks, punctuation, mark]
    | false => exact List.filter_congr fun c _ => by simp [keeps, marks, punctuation]

theorem letters_eq_seen (level : Level) (key : String) :
    collator.letters level (Key.normalizeText key.toList) = collator.seen level key := by
  simp only [letters, seen, Key.normalize, String.toList_ofList, filter_keeps]
  cases level.keepCase <;> simp

theorem elements_eq_iff (level : Level) (a b : String) :
    (collator.elements level (Key.normalizeText a.toList) = collator.elements level (Key.normalizeText b.toList) ↔
      collator.compared level a = collator.compared level b) := by
  simp only [elements, letters_eq_seen, compared]
  cases collator.numeric with
  | true => exact (gather_eq_iff _ _).1
  | false => exact List.map_inj_right fun _ _ => Element.character.inj

/-- Keys tie exactly if every level that the sensitivity goes through compares the same
characters of them. Then the keys have, at each of these levels, as many runs of digits in
the same places, of the same digits but for leading zeros, and the same other characters
between them; and where digits are no numbers, the same characters throughout. -/
theorem order_eq_iff_compared (a b : String) :
    (collator.order a b = .eq ↔
        ∀ level, collator.sensitivity.Considers level → collator.compared level a = collator.compared level b) ∧
      (collator.order a b = .eq ↔ ∀ level, collator.sensitivity.Considers level →
        if collator.numeric then List.Forall₂ SameRun (digitRuns (collator.seen level a)) (digitRuns (collator.seen level b))
        else collator.seen level a = collator.seen level b) := by
  have ties : collator.order a b = .eq ↔
      ∀ level, collator.sensitivity.Considers level → collator.compared level a = collator.compared level b := by
    simp only [order_eq_collate, collate_eq_iff, elements_eq_iff, Sensitivity.mem_levels_iff]
  refine ⟨ties, ties.trans (forall_congr' fun level => imp_congr_right fun _ => ?_)⟩
  unfold compared
  cases collator.numeric with
  | true => exact (gather_eq_iff _ _).2
  | false => exact Iff.rfl

/-- Zeros are lost at the front of each run and nowhere else. -/
example : trimmed "x007y0z000a100".toList = "x7y0z0a100".toList := by decide

end Collator

end StreamTable
