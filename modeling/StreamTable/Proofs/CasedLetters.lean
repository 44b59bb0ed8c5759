import StreamTable.Unicode.LowerCase
import StreamTable.Proofs.DecompositionTables
import StreamTable.Proofs.MarklessLetters

/-! Letters with two cases. What the tables say of a character that is not its own lower case:
it is cased, and so is its small letter, which is its own lower case. If it is a part of
decompositions, so is its small letter, and if it decomposes, then to letters of which the
lower case decomposes to the small ones, with one exception. The capital lunate sigma
decomposes to a capital sigma but its lower case to a final one. -/

namespace StreamTable.Unicode

def capitalLunateSigma : Char := 'Ϲ'

theorem decompose_capitalLunateSigma : decompose capitalLunateSigma = [capitalSigma] := by decide +kernel

/-- The one cased character that is a mark. -/
def iotaSubscript : Char := '\u0345'

theorem combiningClass_of_not_isMark {c : Char} (unmarked : isMark c = false) : combiningClass c = 0 := by
  apply Decidable.of_not_not
  intro moves
  rw [isMark_of_combiningClass moves] at unmarked
  cases unmarked

section Cased

variable {c : Char} (cased : isCased c)
include cased

theorem not_isMark_of_isCased (other : c ≠ iotaSubscript) : isMark c = false := by
  have checked : marks.allPoints fun point => !casedLetters.contains point || point == iotaSubscript.toNat := by
    decide +kernel
  rw [Bool.eq_false_iff]
  intro mark
  have passed := RangeMap.check_of_contains checked mark
  have held : casedLetters.contains c.toNat := cased
  rw [held, Bool.not_true, Bool.false_or, beq_iff_eq] at passed
  exact other (Char.toNat_inj.mp passed)

theorem not_isBlank_of_isCased : isBlank c = false := by
  have checked : blanks.allPoints fun point => !casedLetters.contains point := by decide +kernel
  rw [Bool.eq_false_iff]
  intro blank
  have passed := RangeMap.check_of_contains checked blank
  have held : casedLetters.contains c.toNat := cased
  rw [held] at passed
  cases passed

theorem isAlphanumeric_of_isCased : isAlphanumeric c := by
  have checked : casedLetters.allPoints alphanumerics.contains := by decide +kernel
  exact RangeMap.check_of_contains checked cased

theorem not_isHangul_of_isCased : Hangul.isHangul c.toNat = false := by
  have checked : casedLetters.allPoints fun point => !Hangul.isHangul point := by decide +kernel
  simpa using RangeMap.check_of_contains checked cased

end Cased

/-- The lower-case letter of a character: all of its lower case, except for the capital I
with a dot, whose dot becomes a mark. -/
def small (c : Char) : Char := (lower c).headD c

theorem small_eq_of_lower_eq {c : Char} (fixed : lower c = [c]) : small c = c := by rw [small, fixed]; rfl

/-- What is checked of the entries of the table holds of every character that is not its own
lower case, and of its lower case. -/
private theorem check_of_lower_ne (check : Char → List Char → Bool)
    (checked : lowerCases.allMapped fun point points =>
      points == [point] || check (Char.ofNat point) (points.map Char.ofNat))
    {c : Char} (other : lower c ≠ [c]) : check c (lower c) := by
  rcases lowerCases.imageOf_cases c with ⟨-, silent⟩ | ⟨points, image, listed⟩
  · exact absurd silent other
  · have passed := listed _ checked
    rw [Char.ofNat_toNat, ← image, Bool.or_eq_true, beq_iff_eq] at passed
    refine passed.resolve_left fun same => other ?_
    rw [lower, image, same, List.map_singleton, Char.ofNat_toNat]

structure Capital (c : Char) : Prop where
  cased : isCased c ∧ isCased (small c)
  unmarked : isMark c = false ∧ isMark (small c) = false

theorem capital_of_lower_ne {c : Char} (other : lower c ≠ [c]) : Capital c := by
  have passed := check_of_lower_ne
    (fun c image => isCased c && isCased (image.headD c) && c != iotaSubscript && image.headD c != iotaSubscript)
    (by decide +kernel) other
  simp only [Bool.and_eq_true, bne_iff_ne] at passed
  obtain ⟨⟨⟨cased, smallCased⟩, single⟩, smallSingle⟩ := passed
  exact ⟨⟨cased, smallCased⟩, not_isMark_of_isCased cased single, not_isMark_of_isCased smallCased smallSingle⟩

theorem capital_of_small_ne {c : Char} (other : small c ≠ c) : Capital c :=
  capital_of_lower_ne fun fixed => other (small_eq_of_lower_eq fixed)

theorem lowered_of_lower_ne {c : Char} (other : lower c ≠ [c]) :
    lower c ≠ [] ∧ ∀ part ∈ lower c, lower part = [part] ∧ isBlank part = false ∧ part ≠ finalSigma := by
  have passed := check_of_lower_ne
    (fun _ image => !image.isEmpty && image.all fun part => lower part == [part] && !isBlank part && part != finalSigma)
    (by decide +kernel) other
  simpa [and_assoc] using passed

theorem lower_ne_nil (c : Char) : lower c ≠ [] := by
  by_cases fixed : lower c = [c]
  · simp [fixed]
  · exact (lowered_of_lower_ne fixed).1

theorem lower_of_mem_lower {c part : Char} (member : part ∈ lower c) : lower part = [part] := by
  by_cases fixed : lower c = [c]
  · rw [fixed, List.mem_singleton] at member
    rwa [member]
  · exact ((lowered_of_lower_ne fixed).2 part member).1

section Small

variable (c : Char)

theorem small_mem_lower : small c ∈ lower c := by
  obtain ⟨first, rest, parts⟩ := List.exists_cons_of_ne_nil (lower_ne_nil c)
  simp [small, parts]

theorem lower_small : lower (small c) = [small c] := lower_of_mem_lower (small_mem_lower c)

theorem small_small : small (small c) = small c := small_eq_of_lower_eq (lower_small c)

theorem combiningClass_small : combiningClass (small c) = combiningClass c := by
  by_cases fixed : small c = c
  · rw [fixed]
  · obtain ⟨unmarked, smallUnmarked⟩ := (capital_of_small_ne fixed).unmarked
    rw [combiningClass_of_not_isMark unmarked, combiningClass_of_not_isMark smallUnmarked]

end Small

/-- A character that may be decomposed before or after it is put in lower case. -/
def Canonical (c : Char) : Prop := (lower c).flatMap decompose = (decompose c).map small

private theorem decomposition_of_lower_ne {c : Char} (other : lower c ≠ [c]) :
    if decompose c = [c] then lower c = [small c] ∧ decompose (small c) = [small c]
    else c = capitalLunateSigma ∨ Canonical c := by
  have passed := check_of_lower_ne
    (fun c image =>
      if decompose c = [c] then image == [image.headD c] && decompose (image.headD c) == [image.headD c]
      else c == capitalLunateSigma || image.flatMap decompose == (decompose c).map small)
    (by decide +kernel) other
  split at passed
  next part => simpa [part, small] using passed
  next further => simpa [further, Canonical] using passed

/-- The parts of a decomposition have one lower-case letter each. -/
theorem lower_of_decompose_eq {c : Char} (part : decompose c = [c]) : lower c = [small c] ∧ decompose (small c) = [small c] := by
  by_cases fixed : lower c = [c]
  · rw [small_eq_of_lower_eq fixed]
    exact ⟨fixed, part⟩
  · simpa [part] using decomposition_of_lower_ne fixed

theorem canonical_of_decompose_eq {c : Char} (part : decompose c = [c]) : Canonical c := by
  obtain ⟨single, fixed⟩ := lower_of_decompose_eq part
  rw [Canonical, single, part]
  simpa using fixed

theorem canonical_of_lower_ne {c : Char} (other : lower c ≠ [c]) : c = capitalLunateSigma ∨ Canonical c := by
  by_cases part : decompose c = [c]
  · exact Or.inr (canonical_of_decompose_eq part)
  · simpa [part] using decomposition_of_lower_ne other

end StreamTable.Unicode
