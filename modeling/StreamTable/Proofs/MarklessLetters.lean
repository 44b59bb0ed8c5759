import StreamTable.Key.Collator

/-! A level that drops marks reads a normal form character by character. Ordering the
marks between starters moves only characters that such a level does not look at, so
what it compares is the sequence of what each character alone amounts to. -/

namespace StreamTable

namespace Unicode

/-- Only marks have a combining class, and so only they are ever moved. -/
theorem isMark_of_combiningClass {c : Char} (moves : combiningClass c ≠ 0) : isMark c := by
  have covered : combiningClasses.allPoints marks.contains := by decide +kernel
  unfold combiningClass at moves
  cases found : combiningClasses.find? c.toNat with
  | none => simp [found] at moves
  | some entry => exact RangeMap.check_of_contains covered (by simp [RangeMap.contains, found])

section Filter

variable {keep : Char → Bool} (drops : ∀ c, combiningClass c ≠ 0 → keep c = false)
include drops

private theorem filter_insertByClass (c : Char) (text : List Char) :
    (insertByClass c text).filter keep = (c :: text).filter keep := by
  induction text with
  | nil => rfl
  | cons next rest ih =>
    simp only [insertByClass]
    split
    next passes =>
      have dropped : keep next = false := by
        apply drops
        simp only [Bool.and_eq_true, bne_iff_ne] at passes
        exact passes.2
      simp only [List.filter_cons, dropped, ih, Bool.false_eq_true, ite_false]
    next => rfl

private theorem filter_orderMarks (text : List Char) : (orderMarks text).filter keep = text.filter keep := by
  induction text with
  | nil => rfl
  | cons c rest ih =>
    have step : orderMarks (c :: rest) = insertByClass c (orderMarks rest) := rfl
    rw [step, filter_insertByClass drops, List.filter_cons, List.filter_cons, ih]

theorem filter_nfkd (text : List Char) :
    (nfkd text).filter keep = text.flatMap fun c => (decompose c).filter keep := by
  rw [nfkd, filter_orderMarks drops, List.filter_flatMap]

end Filter

end Unicode

open Unicode

namespace Collator

variable (collator : Collator) (level : Level)

def lettersOf (c : Char) : List Char :=
  ((decompose c).filter (collator.keeps level)).flatMap fun c => if level.keepCase then [c] else lower c

theorem letters_eq_flatMap (markless : level.keepMarks = false) (text : List Char) :
    collator.letters level text = text.flatMap (collator.lettersOf level) := by
  have drops : ∀ c, combiningClass c ≠ 0 → collator.keeps level c = false := by
    intro c moves
    simp [keeps, markless, isMark_of_combiningClass moves]
  rw [letters, filter_nfkd drops, List.flatMap_assoc]
  rfl

end Collator

end StreamTable
