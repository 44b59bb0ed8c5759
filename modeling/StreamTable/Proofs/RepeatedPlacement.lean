import StreamTable.Proofs.PlacedRows
import Mathlib.Data.List.TakeWhile

/-! A row that is brought again takes the place that it took before. The scan passed by
all rows before that place, so it passes by them again, and then finds the row itself. -/

namespace StreamTable.Placement

@[simp] def index (count : Nat) : Placement → Nat
  | replace index | insert index => index
  | append => count

def put {α : Type} (item : α) (items : List α) : Placement → List α
  | replace index => items.set index item
  | insert index => items.insertIdx index item
  | append => items.insertIdx items.length item

theorem map_put {α β : Type} (change : α → β) (item : α) (items : List α) (placement : Placement) :
    (placement.put item items).map change = placement.put (change item) (items.map change) := by
  cases placement with
  | replace index => simp only [put, List.map_set]
  | insert index => simp only [put, List.map_insertIdx]
  | append => simp only [put, List.length_map, List.map_insertIdx]

def Fits (count : Nat) : Placement → Prop
  | replace index => index < count
  | insert index => index ≤ count
  | append => True

theorem outcome_eq (count : Nat) (placement : Placement) :
    placement.outcome count = .inserted (placement.index count) ∨
      placement.outcome count = .appended (placement.index count) ∨
      placement.outcome count = .replaced (placement.index count) := by
  cases placement with
  | replace index | insert index | append => simp [outcome]

theorem index_le_of_fits {count : Nat} {placement : Placement} (fits : placement.Fits count) :
    placement.index count ≤ count := by
  cases placement with
  | replace index => exact Nat.le_of_lt fits
  | insert index => exact fits
  | append => exact Nat.le_refl count

theorem getElem?_put {α : Type} (item : α) {items : List α} {placement : Placement}
    (fits : placement.Fits items.length) :
    (placement.put item items)[placement.index items.length]? = some item := by
  cases placement with
  | replace index =>
    have inside : index < items.length := fits
    simp [put, inside]
  | insert index =>
    have inside : index ≤ items.length := fits
    simp [put, List.getElem?_insertIdx_self, inside]
  | append => simp [put]

theorem among_fits (key : String) (shown : List String) : (among key shown).Fits shown.length := by
  cases placed : among key shown with
  | replace index => exact (of_among_replace placed).1
  | insert index => exact Nat.le_of_lt (of_among_insert placed).1
  | append => trivial

/-- A row that the scan for a key goes on after. -/
def Passes (key shown : String) : Prop := Key.order key shown ≠ .lt ∧ isOf key shown = false

theorem isOf_self (key : String) : isOf key key := isOf_iff.mpr ⟨Std.ReflCmp.compare_self, rfl⟩

theorem among_append_cons {key shown : String} {front : List String} (back : List String)
    (passed : ∀ other ∈ front, Passes key other) (own : isOf key shown) :
    among key (front ++ shown :: back) = replace front.length := by
  have tied : Key.order key shown = .eq := (isOf_iff.mp own).1
  have reached : reach key (front ++ shown :: back) = front ++ shown :: reach key back := by
    rw [reach, List.takeWhile_append_of_pos fun other member => by simpa using (passed other member).1]
    simp [tied, reach]
  have skipped : front.findIdx? (isOf key) = none :=
    List.findIdx?_eq_none_iff.mpr fun other member => (passed other member).2
  rw [among_eq, reached, List.findIdx?_append, skipped, List.findIdx?_cons, own]
  simp

private theorem passes_of_not_isAfter {key : String} {shown : List String}
    (added : ∀ index, among key shown ≠ replace index) {front : List String} (early : front <+: shown)
    (before : ∀ other ∈ front, isAfter key other = false) : ∀ other ∈ front, Passes key other := by
  have notLess : ∀ other ∈ front, Key.order key other ≠ .lt := fun other member =>
    order_ne_lt_of_not_isAfter (before other member)
  obtain ⟨back, rfl⟩ := early
  intro other member
  refine ⟨notLess other member, Bool.eq_false_iff.mpr fun own => ?_⟩
  have reached : other ∈ reach key (front ++ back) := by
    rw [reach, List.takeWhile_append_of_pos fun other member => by simpa using notLess other member]
    exact List.mem_append_left _ member
  obtain ⟨index, found⟩ := among_replace_of_reach reached own
  exact added index found

/-- The scan for a key passes by all rows before the place of the key. -/
theorem passes_before (key : String) (shown : List String) :
    ∀ other ∈ shown.take ((among key shown).index shown.length), Passes key other := by
  cases placed : among key shown with
  | replace index =>
    obtain ⟨inside, _, different⟩ := List.findIdx?_eq_some_iff_getElem.mp (findIdx?_of_among_replace placed)
    have early : reach key shown <+: shown := List.takeWhile_prefix _
    intro other member
    obtain ⟨position, bound, rfl⟩ := List.mem_take_iff_getElem.mp member
    have before : position < index := (Nat.lt_min.mp bound).1
    rw [← early.getElem (Nat.lt_trans before inside)]
    have notLess := List.mem_takeWhile_imp (List.getElem_mem (Nat.lt_trans before inside))
    exact ⟨by simpa using notLess, by simpa using different position before⟩
  | insert index =>
    obtain ⟨inside, -, earlier⟩ := of_among_insert placed
    refine passes_of_not_isAfter (by simp [placed]) (List.take_prefix index shown) fun other member => ?_
    obtain ⟨position, bound, rfl⟩ := List.mem_take_iff_getElem.mp member
    exact earlier position (Nat.lt_min.mp bound).1
  | append =>
    refine passes_of_not_isAfter (by simp [placed]) (List.take_prefix shown.length shown) fun other member => ?_
    exact of_among_append placed other (List.mem_of_mem_take member)

theorem among_put (key : String) (shown : List String) :
    among key ((among key shown).put key shown) = replace ((among key shown).index shown.length) := by
  have passed := passes_before key shown
  have within : (among key shown).index shown.length ≤ shown.length := index_le_of_fits (among_fits key shown)
  have split : ∃ back, (among key shown).put key shown =
      shown.take ((among key shown).index shown.length) ++ key :: back := by
    cases placed : among key shown with
    | replace index =>
      have inside := (of_among_replace placed).1
      exact ⟨shown.drop (index + 1), by rw [put, List.set_eq_take_append_cons_drop, if_pos inside]; rfl⟩
    | insert index =>
      have inside := (of_among_insert placed).1
      exact ⟨shown.drop index, insertIdx_eq_append key (Nat.le_of_lt inside)⟩
    | append => exact ⟨shown.drop shown.length, insertIdx_eq_append key (Nat.le_refl _)⟩
  obtain ⟨back, split⟩ := split
  rw [split, among_append_cons back passed (isOf_self key), List.length_take, Nat.min_eq_left within]

end StreamTable.Placement

namespace StreamTable.Entry

variable (row : Row) (entries : List Entry)

theorem place_eq_put : place row entries = (placement row entries).put ⟨row, none⟩ entries := by
  unfold place
  cases placement row entries <;> rfl

theorem placement_fits : (placement row entries).Fits entries.length := by
  have fits := Placement.among_fits row.displayKey (shownKeys entries)
  rwa [shownKeys_length] at fits

end StreamTable.Entry
