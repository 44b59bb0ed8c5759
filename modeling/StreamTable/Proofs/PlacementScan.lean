import StreamTable.Proofs.CollationOrder
import StreamTable.Sync.Placement

/-! The pass over the rows in closed form. It is one search for the row to replace,
among the rows before the first greater one, and one search for the slot. The
order of the rows is not needed for this. -/

namespace StreamTable.Placement

def isOf (key shown : String) : Bool := Key.order key shown == .eq && Key.identity shown == Key.identity key

def isAfter (key shown : String) : Bool := Key.orderTotal key shown == .lt

theorem isOf_iff {key shown : String} :
    isOf key shown ↔ Key.order key shown = .eq ∧ Key.identity shown = Key.identity key := by
  simp only [isOf, Bool.and_eq_true, beq_iff_eq]

theorem isAfter_iff {key shown : String} : isAfter key shown ↔ Key.orderTotal key shown = .lt := beq_iff_eq

/-- The rows before the first one that sorts after a key. -/
def reach (key : String) (shown : List String) : List String :=
  shown.takeWhile fun other => Key.order key other != .lt

def ofSlot : Option Nat → Placement
  | none => append
  | some index => insert index

theorem isAfter_of_order_lt {key shown : String} (less : Key.order key shown = .lt) : isAfter key shown := by
  simp [isAfter, Key.orderTotal_eq_then, less]

theorem not_isAfter_of_order_gt {key shown : String} (greater : Key.order key shown = .gt) :
    isAfter key shown = false := by
  simp [isAfter, Key.orderTotal_eq_then, greater]

theorem order_ne_lt_of_not_isAfter {key shown : String} (notAfter : isAfter key shown = false) :
    Key.order key shown ≠ .lt := by
  intro less
  simp [isAfter_of_order_lt less] at notAfter

theorem order_ne_gt_of_isAfter {key shown : String} (after : isAfter key shown) : Key.order key shown ≠ .gt := by
  intro greater
  simp [not_isAfter_of_order_gt greater] at after

private theorem shifted (found slot after : Option Nat) (index : Nat) :
    (match found with
      | some position => replace (index + 1 + position)
      | none => ofSlot (slot.or (after.map (index + 1 + ·)))) =
    match found.map (· + 1) with
      | some position => replace (index + position)
      | none => ofSlot (slot.or ((after.map (· + 1)).map (index + ·))) := by
  cases found <;> cases after <;> simp [Nat.add_comm, Nat.add_left_comm]

theorem seek_eq (key : String) (index : Nat) (slot : Option Nat) (shown : List String) :
    seek key (Key.identity key) index slot shown =
      match (reach key shown).findIdx? (isOf key) with
      | some position => replace (index + position)
      | none => ofSlot (slot.or ((shown.findIdx? (isAfter key)).map (index + ·))) := by
  induction shown generalizing index slot with
  | nil => cases slot <;> rfl
  | cons other rest ih =>
    cases answer : Key.order key other with
    | lt =>
      have after := isAfter_of_order_lt answer
      cases slot <;> simp [seek, reach, answer, List.findIdx?_cons, after, ofSlot]
    | gt =>
      have before := not_isAfter_of_order_gt answer
      have different : isOf key other = false := by simp [isOf, answer]
      have reached : reach key (other :: rest) = other :: reach key rest := by simp [reach, answer]
      simp only [seek, answer, ih, reached, List.findIdx?_cons, different, before]
      exact shifted _ _ _ _
    | eq =>
      have reached : reach key (other :: rest) = other :: reach key rest := by simp [reach, answer]
      by_cases same : Key.identity other = Key.identity key
      · have found : isOf key other := by simp [isOf, answer, same]
        simp [seek, answer, same, reached, List.findIdx?_cons, found]
      · have different : isOf key other = false := by simp [isOf, answer, same]
        simp only [seek, answer, same, ih, reached, List.findIdx?_cons, different, ite_false]
        cases after : isAfter key other with
        | false =>
          have total : (Key.orderTotal key other == .lt) = false := after
          simp only [total, Bool.and_false]
          exact shifted _ _ _ _
        | true =>
          have total : (Key.orderTotal key other == .lt) = true := after
          simp only [total, Bool.and_true]
          cases slot <;> cases (reach key rest).findIdx? (isOf key) <;>
            simp [ofSlot, Nat.add_comm, Nat.add_left_comm]

/-- The place of a key: the first row before any greater one that the key replaces,
or else before the first row that the total order puts after it. -/
theorem among_eq (key : String) (shown : List String) :
    among key shown =
      match (reach key shown).findIdx? (isOf key) with
      | some position => replace position
      | none => ofSlot (shown.findIdx? (isAfter key)) := by
  simp [among, seek_eq]

section Inversion

variable {key : String} {shown : List String} {index : Nat}

theorem findIdx?_of_among_replace (placed : among key shown = replace index) :
    (reach key shown).findIdx? (isOf key) = some index := by
  rw [among_eq] at placed
  cases found : (reach key shown).findIdx? (isOf key) with
  | none => cases slot : shown.findIdx? (isAfter key) <;> simp [found, slot, ofSlot] at placed
  | some position => simpa only [found, replace.injEq, Option.some.injEq] using placed

theorem findIdx?_of_among_insert (placed : among key shown = insert index) :
    shown.findIdx? (isAfter key) = some index := by
  rw [among_eq] at placed
  cases found : (reach key shown).findIdx? (isOf key) with
  | some position => simp [found] at placed
  | none =>
    cases slot : shown.findIdx? (isAfter key) with
    | none => simp [found, slot, ofSlot] at placed
    | some position => simpa only [found, slot, ofSlot, insert.injEq, Option.some.injEq] using placed

theorem findIdx?_of_among_append (placed : among key shown = append) : shown.findIdx? (isAfter key) = none := by
  rw [among_eq] at placed
  cases found : (reach key shown).findIdx? (isOf key) with
  | some position => simp [found] at placed
  | none =>
    cases slot : shown.findIdx? (isAfter key) with
    | none => rfl
    | some position => simp [found, slot, ofSlot] at placed

theorem of_among_replace (placed : among key shown = replace index) :
    ∃ inside : index < shown.length, isOf key shown[index] := by
  obtain ⟨inside, own, _⟩ := List.findIdx?_eq_some_iff_getElem.mp (findIdx?_of_among_replace placed)
  have early : reach key shown <+: shown := List.takeWhile_prefix _
  exact ⟨Nat.lt_of_lt_of_le inside early.length_le, early.getElem inside ▸ own⟩

theorem of_among_insert (placed : among key shown = insert index) :
    ∃ inside : index < shown.length, isAfter key shown[index] ∧
      ∀ earlier, (before : earlier < index) → isAfter key shown[earlier] = false := by
  simpa only [Bool.not_eq_true] using List.findIdx?_eq_some_iff_getElem.mp (findIdx?_of_among_insert placed)

theorem of_among_append (placed : among key shown = append) : ∀ other ∈ shown, isAfter key other = false :=
  List.findIdx?_eq_none_iff.mp (findIdx?_of_among_append placed)

end Inversion

theorem among_replace_of_reach {key other : String} {shown : List String} (reached : other ∈ reach key shown)
    (own : isOf key other) : ∃ index, among key shown = replace index := by
  have found : ((reach key shown).findIdx? (isOf key)).isSome := by
    rw [List.findIdx?_isSome, List.any_eq_true]
    exact ⟨other, reached, own⟩
  obtain ⟨index, first⟩ := Option.isSome_iff_exists.mp found
  exact ⟨index, by rw [among_eq, first]⟩

end StreamTable.Placement
