/-! Maps whose keys come in ranges of code points. A map is a binary search tree
of disjoint ranges in ascending order, so a lookup compares with one bound on
each level and every table of the character database is a plain literal. -/

namespace StreamTable.Unicode

inductive RangeMap (α : Type) where
  | leaf
  | node (left : RangeMap α) (first last : Nat) (value : α) (right : RangeMap α)

namespace RangeMap

variable {α : Type}

/-- The range that holds a key, by its first key, and the range's value. The tests are
Boolean, so that a check of a whole table is quick to evaluate. -/
def find? : RangeMap α → Nat → Option (Nat × α)
  | leaf, _ => none
  | node left first last value right, key =>
    bif key.blt first then left.find? key
    else bif last.blt key then right.find? key
    else some (first, value)

def contains (ranges : RangeMap α) (key : Nat) : Bool := (ranges.find? key).isSome

def entries : RangeMap α → List (Nat × Nat × α)
  | leaf => []
  | node left first last value right => left.entries ++ (first, last, value) :: right.entries

theorem mem_entries_of_find? {ranges : RangeMap α} {key first : Nat} {value : α}
    (found : ranges.find? key = some (first, value)) :
    ∃ last, (first, last, value) ∈ ranges.entries ∧ first ≤ key ∧ key ≤ last := by
  induction ranges with
  | leaf => simp [find?] at found
  | node left low high held right leftIh rightIh =>
    simp only [find?, Nat.blt_eq, Bool.cond_eq_ite] at found
    split at found
    · obtain ⟨last, member, bounds⟩ := leftIh found
      exact ⟨last, by simp [entries, member], bounds⟩
    · split at found
      · obtain ⟨last, member, bounds⟩ := rightIh found
        exact ⟨last, by simp [entries, member], bounds⟩
      · cases found
        exact ⟨high, by simp [entries], by omega, by omega⟩

def allPoints (ranges : RangeMap α) (check : Nat → Bool) : Bool :=
  ranges.entries.all fun (first, last, _) => (List.range' first (last + 1 - first)).all check

theorem check_of_contains {ranges : RangeMap α} {check : Nat → Bool} (passed : ranges.allPoints check)
    {key : Nat} (inside : ranges.contains key) : check key := by
  obtain ⟨⟨first, value⟩, found⟩ := Option.isSome_iff_exists.mp inside
  obtain ⟨last, member, above, below⟩ := mem_entries_of_find? found
  have points := List.all_eq_true.mp (List.all_eq_true.mp passed _ member)
  have count : key < first + (last + 1 - first) := by omega
  exact points key (List.mem_range'_1.mpr ⟨above, count⟩)

end RangeMap

abbrev RangeSet := RangeMap Unit

end StreamTable.Unicode
