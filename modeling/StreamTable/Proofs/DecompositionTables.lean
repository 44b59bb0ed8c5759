import StreamTable.Unicode.Decomposition

/-! What the decomposition tables say of every character. A character is its own
decomposition, or a syllable, or listed in the one table that covers it, so a fact about all
decompositions is a check of the tables and a look at the syllables. No decomposition is
empty, and none decomposes any further. -/

namespace StreamTable.Unicode

/-- Whether a check holds of every code point that a table maps and of what it maps it to. -/
def RangeMap.allMapped (table : RangeMap Image) (check : Nat → List Nat → Bool) : Bool :=
  table.entries.all fun (first, last, image) =>
    (List.range' first (last + 1 - first)).all fun point => check point (image.points first point)

/-- A table leaves a character as it is or maps it to what it was checked for. -/
theorem RangeMap.imageOf_cases (table : RangeMap Image) (c : Char) :
    table.find? c.toNat = none ∧ table.imageOf c = [c] ∨
      ∃ points, table.imageOf c = points.map Char.ofNat ∧
        ∀ check, table.allMapped check → check c.toNat points := by
  unfold imageOf
  cases found : table.find? c.toNat with
  | none => exact Or.inl ⟨rfl, rfl⟩
  | some entry =>
    right
    refine ⟨entry.2.points entry.1 c.toNat, rfl, fun check passed => ?_⟩
    obtain ⟨last, listed, above, below⟩ := mem_entries_of_find? found
    have inside : c.toNat ∈ List.range' entry.1 (last + 1 - entry.1) := List.mem_range'_1.mpr (by omega)
    exact List.all_eq_true.mp (List.all_eq_true.mp passed _ listed) _ inside

namespace Hangul

/-- The parts of syllables, which are one block, and the syllables. -/
def isHangul (point : Nat) : Bool := (leadBase ≤ point && point < trailBase + trailCount) || isSyllable point

theorem toNat_ofNat {point : Nat} (held : isHangul point) : (Char.ofNat point).toNat = point := by
  have valid : point.isValidChar := by
    simp only [isHangul, isSyllable, Bool.or_eq_true, Bool.and_eq_true, decide_eq_true_eq] at held
    simp only [leadBase, trailBase, syllableBase, syllableCount, leadCount, vowelCount, trailCount] at held
    left
    omega
  rw [Char.ofNat, dif_pos valid]
  rfl

theorem bounds_of_mem_decompose {syllable point : Nat} (held : isSyllable syllable) (member : point ∈ decompose syllable) :
    leadBase ≤ point ∧ point < trailBase + trailCount := by
  simp only [isSyllable, Bool.and_eq_true, decide_eq_true_eq] at held
  unfold decompose at member
  simp only [leadBase, vowelBase, trailBase, syllableCount, leadCount, vowelCount, trailCount] at *
  by_cases lone : (syllable - syllableBase) % 28 = 0
  all_goals
    simp only [lone, ite_true, ite_false, List.mem_cons, List.not_mem_nil, or_false] at member
    omega

theorem isHangul_of_mem_decompose {syllable point : Nat} (held : isSyllable syllable) (member : point ∈ decompose syllable) :
    isHangul point := by
  have bounds := bounds_of_mem_decompose held member
  simp [isHangul, bounds]

theorem isHangul_of_compose? {first second whole : Nat} (made : compose? first second = some whole) :
    isHangul first ∧ isHangul second ∧ isHangul whole := by
  simp only [isHangul, isSyllable, Bool.or_eq_true, Bool.and_eq_true, decide_eq_true_eq]
  unfold compose? at made
  split at made
  next inside =>
    simp only [Bool.and_eq_true, decide_eq_true_eq] at inside
    simp only [Option.some.injEq] at made
    simp only [leadBase, vowelBase, trailBase, syllableBase, syllableCount, leadCount, vowelCount, trailCount] at *
    omega
  next =>
    split at made
    next inside =>
      simp only [isSyllable, Bool.and_eq_true, decide_eq_true_eq, beq_iff_eq] at inside
      simp only [Option.some.injEq] at made
      simp only [leadBase, vowelBase, trailBase, syllableBase, syllableCount, leadCount, vowelCount, trailCount] at *
      omega
    next => cases made

end Hangul

/-- Whether a code point is its own decomposition. -/
def isFixed (point : Nat) : Bool := !Hangul.isSyllable point && !(decompositionsFor point).contains point

theorem decompose_cases (c : Char) :
    isFixed c.toNat ∧ decompose c = [c] ∨
      Hangul.isSyllable c.toNat ∧ decompose c = (Hangul.decompose c.toNat).map Char.ofNat ∨
      ∃ points, decompose c = points.map Char.ofNat ∧
        ∀ check, (∀ point, (decompositionsFor point).allMapped check) → check c.toNat points := by
  cases syllable : Hangul.isSyllable c.toNat with
  | true => exact Or.inr (Or.inl ⟨rfl, by rw [decompose, if_pos syllable]⟩)
  | false =>
    have mapped : decompose c = (decompositionsFor c.toNat).imageOf c := by simp [decompose, syllable]
    rw [mapped]
    rcases (decompositionsFor c.toNat).imageOf_cases c with ⟨silent, same⟩ | ⟨points, same, checked⟩
    · exact Or.inl ⟨by simp [isFixed, syllable, RangeMap.contains, silent], same⟩
    · exact Or.inr (Or.inr ⟨points, same, fun check passed => checked check (passed c.toNat)⟩)

theorem decompose_of_isFixed {c : Char} (fixed : isFixed c.toNat) : decompose c = [c] := by
  simp only [isFixed, Bool.and_eq_true, Bool.not_eq_true', RangeMap.contains, Option.isSome_eq_false_iff,
    Option.isNone_iff_eq_none] at fixed
  simp [decompose, RangeMap.imageOf, fixed]

private theorem decompose_ofNat_of_isFixed {point : Nat} (fixed : isFixed point) :
    decompose (Char.ofNat point) = [Char.ofNat point] := by
  by_cases valid : point.isValidChar
  · have same : (Char.ofNat point).toNat = point := by
      rw [Char.ofNat, dif_pos valid]
      rfl
    exact decompose_of_isFixed (by rwa [same])
  · rw [Char.ofNat, dif_neg valid]
    decide +kernel

private theorem decompositionsFor_fixed (point : Nat) :
    (decompositionsFor point).allMapped fun _ points => !points.isEmpty && points.all isFixed := by
  unfold decompositionsFor
  repeat' split
  all_goals decide +kernel

theorem Hangul.isFixed_jamo {point : Nat} (above : leadBase ≤ point) (below : point < trailBase + trailCount) :
    isFixed point := by
  have inside : point ∈ List.range' leadBase (trailBase + trailCount - leadBase) := by
    simp only [leadBase, trailBase, trailCount] at *
    exact List.mem_range'_1.mpr (by omega)
  have checked : (List.range' leadBase (trailBase + trailCount - leadBase)).all isFixed := by decide +kernel
  exact List.all_eq_true.mp checked point inside

/-- What a character decomposes to does not decompose any further. -/
theorem decompose_part {c part : Char} (member : part ∈ decompose c) : decompose part = [part] := by
  rcases decompose_cases c with ⟨-, parts⟩ | ⟨held, parts⟩ | ⟨points, parts, checked⟩
  · rw [parts] at member
    rw [List.mem_singleton.mp member, parts]
  · rw [parts] at member
    obtain ⟨point, inside, rfl⟩ := List.mem_map.mp member
    obtain ⟨above, below⟩ := Hangul.bounds_of_mem_decompose held inside
    exact decompose_ofNat_of_isFixed (Hangul.isFixed_jamo above below)
  · rw [parts] at member
    obtain ⟨point, inside, rfl⟩ := List.mem_map.mp member
    have passed := (Bool.and_eq_true_iff.mp (checked _ decompositionsFor_fixed)).2
    exact decompose_ofNat_of_isFixed (List.all_eq_true.mp passed point inside)

theorem decompose_ne_nil (c : Char) : decompose c ≠ [] := by
  rcases decompose_cases c with ⟨-, parts⟩ | ⟨-, parts⟩ | ⟨points, parts, checked⟩
  · simp [parts]
  · rw [parts, Ne, List.map_eq_nil_iff, Hangul.decompose]
    split <;> simp
  · have passed := (Bool.and_eq_true_iff.mp (checked _ decompositionsFor_fixed)).1
    rw [parts, Ne, List.map_eq_nil_iff]
    rintro rfl
    cases passed

end StreamTable.Unicode
