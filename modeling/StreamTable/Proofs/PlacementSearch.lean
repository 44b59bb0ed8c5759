import StreamTable.Proofs.RepeatedPlacement
import StreamTable.Proofs.SortedRows
import Mathlib.Order.Bounds.Basic

/-! The one pass over the rows against two plain searches, for rows in any order. One is
for the row to replace, the other for the first row that the total order puts after the
key. The pass sees nothing behind the first greater row; where the rows are in order
there is nothing of the key to be seen behind it. -/

namespace StreamTable

theorem findIdx?_eq_some_iff_isLeast {α : Type} {found : α → Bool} {items : List α} {index : Nat} :
    items.findIdx? found = some index ↔ IsLeast {index | ∃ item, items[index]? = some item ∧ found item} index := by
  rw [List.findIdx?_eq_some_iff_getElem]
  constructor
  · rintro ⟨inside, own, earlier⟩
    refine ⟨⟨_, List.getElem?_eq_getElem inside, own⟩, ?_⟩
    rintro position ⟨item, here, other⟩
    by_contra before
    obtain ⟨bound, rfl⟩ := List.getElem?_eq_some_iff.mp here
    exact earlier position (by omega) other
  · rintro ⟨⟨item, here, own⟩, least⟩
    obtain ⟨inside, rfl⟩ := List.getElem?_eq_some_iff.mp here
    refine ⟨inside, own, fun position before other => ?_⟩
    have bound : index ≤ position := least ⟨_, List.getElem?_eq_getElem _, other⟩
    omega

namespace Placement

/-- At an index is a row that ties with a key and has its identity. -/
def OwnAt (key : String) (shown : List String) (index : Nat) : Prop :=
  ∃ other, shown[index]? = some other ∧ Key.order key other = .eq ∧ Key.identity other = Key.identity key

/-- At an index is a row that the total order puts after a key. -/
def AboveAt (key : String) (shown : List String) (index : Nat) : Prop :=
  ∃ other, shown[index]? = some other ∧ Key.orderTotal key other = .lt

/-- The first row of a key, if no greater row stands before it. -/
structure Replaces (key : String) (shown : List String) (index : Nat) : Prop where
  own : IsLeast {index | OwnAt key shown index} index
  inSight : ∀ earlier < index, ∀ other, shown[earlier]? = some other → Key.order other key ≠ .gt

variable {key : String} {shown : List String} {index : Nat}

theorem ownAt_iff : OwnAt key shown index ↔ ∃ other, shown[index]? = some other ∧ isOf key other := by
  simp only [OwnAt, isOf_iff]

private theorem order_ne_lt_iff {other : String} : Key.order key other ≠ .lt ↔ Key.order other key ≠ .gt :=
  not_congr Std.OrientedCmp.gt_iff_lt.symm

theorem among_eq_replace_iff : among key shown = replace index ↔ Replaces key shown index := by
  constructor
  · intro placed
    obtain ⟨inside, own⟩ := of_among_replace placed
    have passed : ∀ other ∈ shown.take index, Passes key other := by
      have before := passes_before key shown
      rwa [placed] at before
    have reached {earlier : Nat} {other : String} (before : earlier < index) (found : shown[earlier]? = some other) :
        Passes key other := by
      obtain ⟨bound, rfl⟩ := List.getElem?_eq_some_iff.mp found
      exact passed _ (List.mem_take_iff_getElem.mpr ⟨earlier, by omega, rfl⟩)
    refine ⟨⟨ownAt_iff.mpr ⟨_, List.getElem?_eq_getElem inside, own⟩, ?_⟩, ?_⟩
    · intro earlier owned
      obtain ⟨other, found, ownEarlier⟩ := ownAt_iff.mp owned
      by_contra before
      have different := (reached (by omega) found).2
      rw [ownEarlier] at different
      cases different
    · intro earlier before other found
      exact order_ne_lt_iff.mp (reached before found).1
  · intro replaces
    obtain ⟨other, found, own⟩ := ownAt_iff.mp replaces.own.1
    obtain ⟨inside, rfl⟩ := List.getElem?_eq_some_iff.mp found
    have passed : ∀ other ∈ shown.take index, Passes key other := by
      intro other member
      obtain ⟨earlier, bound, rfl⟩ := List.mem_take_iff_getElem.mp member
      have here : shown[earlier]? = some shown[earlier] := List.getElem?_eq_getElem _
      refine ⟨order_ne_lt_iff.mpr (replaces.inSight earlier (by omega) _ here), Bool.eq_false_iff.mpr ?_⟩
      intro ownEarlier
      have least : index ≤ earlier := replaces.own.2 (ownAt_iff.mpr ⟨_, here, ownEarlier⟩)
      omega
    have placed := among_append_cons (shown.drop (index + 1)) passed own
    rwa [← List.drop_eq_getElem_cons inside, List.take_append_drop, List.length_take,
      Nat.min_eq_left (Nat.le_of_lt inside)] at placed

private theorem isLeast_of_among_insert (placed : among key shown = insert index) :
    IsLeast {index | AboveAt key shown index} index := by
  simpa only [AboveAt, ← isAfter_iff] using findIdx?_eq_some_iff_isLeast.mp (findIdx?_of_among_insert placed)

private theorem not_aboveAt_of_among_append (placed : among key shown = append) : ¬ AboveAt key shown index := by
  intro ⟨other, found, less⟩
  have notAfter := of_among_append placed other (List.mem_of_getElem? found)
  rw [isAfter_iff.mpr less] at notAfter
  cases notAfter

theorem among_eq_insert_iff (added : ∀ index, ¬ Replaces key shown index) :
    among key shown = insert index ↔ IsLeast {index | AboveAt key shown index} index := by
  refine ⟨isLeast_of_among_insert, fun least => ?_⟩
  cases placed : among key shown with
  | replace position => exact absurd (among_eq_replace_iff.mp placed) (added position)
  | insert position => rw [least.unique (isLeast_of_among_insert placed)]
  | append => exact absurd least.1 (not_aboveAt_of_among_append placed)

theorem among_eq_append_iff (added : ∀ index, ¬ Replaces key shown index) :
    among key shown = append ↔ ∀ index, ¬ AboveAt key shown index := by
  refine ⟨fun placed _ => not_aboveAt_of_among_append placed, fun none => ?_⟩
  cases placed : among key shown with
  | replace position => exact absurd (among_eq_replace_iff.mp placed) (added position)
  | insert position => exact absurd (isLeast_of_among_insert placed).1 (none position)
  | append => rfl

/-- In rows in order nothing stands before a row of a key that could hide it. -/
theorem replaces_of_sorted (sorted : Key.Sorted shown) (own : IsLeast {index | OwnAt key shown index} index) :
    Replaces key shown index := by
  refine ⟨own, fun earlier before other found => ?_⟩
  obtain ⟨mine, foundMine, tied, -⟩ := own.1
  obtain ⟨inside, rfl⟩ := List.getElem?_eq_some_iff.mp foundMine
  obtain ⟨bound, rfl⟩ := List.getElem?_eq_some_iff.mp found
  have notAbove := List.pairwise_iff_getElem.mp sorted earlier index bound inside before
  rwa [← Std.TransCmp.congr_right tied] at notAbove

end Placement

open Placement (Replaces OwnAt AboveAt)

/-- What placing a row says and leaves, if the row to replace and the slot are each found
by a search through all rows. -/
structure PlacedBySearch (row : Row) (entries : List Entry) (effect : Effect (List Entry)) : Prop where
  replaced : ∀ index, effect.outcome = .replaced index ↔ Replaces row.displayKey (shownKeys entries) index
  inserted : (∀ index, ¬ Replaces row.displayKey (shownKeys entries) index) →
    ∀ index, effect.outcome = .inserted index ↔ IsLeast {index | AboveAt row.displayKey (shownKeys entries) index} index
  appended : (∀ index, ¬ Replaces row.displayKey (shownKeys entries) index) →
    ∀ index, effect.outcome = .appended index ↔
      index = entries.length ∧ ∀ position, ¬ AboveAt row.displayKey (shownKeys entries) position
  overwritten : ∀ index, effect.outcome = .replaced index → effect.store = entries.set index ⟨row, none⟩
  slotted : ∀ index, effect.outcome = .inserted index → effect.store = entries.insertIdx index ⟨row, none⟩
  added : ∀ index, effect.outcome = .appended index → effect.store = entries ++ [⟨row, none⟩]
  live : effect.synchronizer.phase = .live

/-- Placing a row in one pass comes to the same as two searches, whatever rows there are
and in whatever order. The pass also asks for no greater row before the one that it
replaces, which is no matter where the rows are in order. -/
theorem placeRow_by_search (sanitizer : Option (String → String)) (synchronizer : Synchronizer)
    (active : synchronizer.phase ≠ .closed) (row : Row) (entries : List Entry) :
    PlacedBySearch row entries (synchronizer.placeRow (memoryHost sanitizer) row entries) ∧
      (Key.Sorted (shownKeys entries) → ∀ index,
        IsLeast {index | OwnAt row.displayKey (shownKeys entries) index} index →
          Replaces row.displayKey (shownKeys entries) index) := by
  refine ⟨?_, fun sorted index own => Placement.replaces_of_sorted sorted own⟩
  obtain ⟨records, done⟩ := synchronizer.placeRow_memory sanitizer entries row active
  rw [done, Entry.place, Entry.placement]
  have replaces (index : Nat) := @Placement.among_eq_replace_iff row.displayKey (shownKeys entries) index
  have inserts (added : ∀ index, ¬ Replaces row.displayKey (shownKeys entries) index) (index : Nat) :=
    @Placement.among_eq_insert_iff _ _ index added
  have appends (added : ∀ index, ¬ Replaces row.displayKey (shownKeys entries) index) :=
    Placement.among_eq_append_iff added
  generalize Placement.among row.displayKey (shownKeys entries) = placement at replaces inserts appends
  refine ⟨fun index => ?_, fun none index => ?_, fun none index => ?_, fun index told => ?_, fun index told => ?_,
    fun index told => ?_, rfl⟩
  · rw [Placement.outcome_eq_replaced_iff, replaces]
  · rw [Placement.outcome_eq_inserted_iff, inserts none]
  · rw [Placement.outcome_eq_appended_iff, appends none, and_comm]
  · cases placement <;> cases told
    rfl
  · cases placement <;> cases told
    rfl
  · cases placement <;> cases told
    exact List.insertIdx_length_self

def disorderedEntries : List Entry :=
  [⟨⟨"9", [.text "item 9"]⟩, some "nine"⟩, ⟨⟨"2", [.html "<b>Item</b> 2"]⟩, none⟩]

theorem placeRow_by_search_hidden :
    let row : Row := ⟨"2", [.text "ITEM 2"]⟩
    let effect := Synchronizer.placeRow (memoryHost none) row ⟨1, {}, .empty⟩ disorderedEntries
    let mended := disorderedEntries.reverse
    PlacedBySearch row disorderedEntries effect ∧ (∀ index, ¬ Replaces "ITEM 2" (shownKeys disorderedEntries) index) ∧
      IsLeast {index | AboveAt "ITEM 2" (shownKeys disorderedEntries) index} 0 ∧
      effect.store = ⟨row, none⟩ :: disorderedEntries ∧
      Key.Sorted (shownKeys mended) ∧ Replaces "ITEM 2" (shownKeys mended) 0 ∧
      (Synchronizer.placeRow (memoryHost none) row ⟨1, {}, .empty⟩ mended).outcome = .replaced 0 := by
  intro row effect mended
  have told : effect.outcome = .inserted 0 := by decide +kernel
  have sorted : Key.Sorted (shownKeys mended) := by
    unfold Key.Sorted
    decide +kernel
  have own : IsLeast {index | OwnAt "ITEM 2" (shownKeys mended) index} 0 :=
    ⟨⟨"Item 2", by decide +kernel, by decide +kernel, by decide +kernel⟩, fun _ _ => Nat.zero_le _⟩
  obtain ⟨searched, -⟩ := placeRow_by_search none ⟨1, {}, .empty⟩ (by decide) row disorderedEntries
  obtain ⟨again, inSight⟩ := placeRow_by_search none ⟨1, {}, .empty⟩ (by decide) row mended
  have hidden (index : Nat) : ¬ Replaces "ITEM 2" (shownKeys disorderedEntries) index := by
    intro replaces
    have replaced := (searched.replaced index).mpr replaces
    rw [told] at replaced
    cases replaced
  have replaces := inSight sorted 0 own
  exact ⟨searched, hidden, (searched.inserted hidden 0).mp told, searched.slotted 0 told, sorted, replaces,
    (again.replaced 0).mpr replaces⟩

end StreamTable
