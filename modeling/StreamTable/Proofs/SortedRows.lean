import StreamTable.Proofs.PlacedRows

/-! Rows stay in order. Only the preorder laws are used: a replaced row ties with the
row it gives way to, so it may be spelled in any way, and a slot has no greater row
before it and no smaller one from there on. -/

namespace StreamTable

/-- No key sorts after a later one. Keys that tie may stand in any order. -/
def Key.Sorted (keys : List String) : Prop :=
  keys.Pairwise fun first second => Key.order first second ≠ .gt

namespace Key.Sorted

private theorem order_not_gt_trans {a b c : String} (first : Key.order a b ≠ .gt) (second : Key.order b c ≠ .gt) :
    Key.order a c ≠ .gt :=
  Ordering.ne_gt_iff_isLE.mpr
    (Std.TransCmp.isLE_trans (Ordering.ne_gt_iff_isLE.mp first) (Ordering.ne_gt_iff_isLE.mp second))

private theorem order_not_gt_of_swap {a b : String} (notLess : Key.order b a ≠ .lt) : Key.order a b ≠ .gt :=
  fun greater => notLess (Std.OrientedCmp.lt_of_gt greater)

/-- The rows in reach of a key end at the first greater one, so in a list in order they
include all that tie with it. -/
theorem mem_reach {keys : List String} (sorted : Sorted keys) {key other : String} (member : other ∈ keys)
    (tied : Key.order key other = .eq) : other ∈ Placement.reach key keys := by
  induction keys with
  | nil => cases member
  | cons first rest ih =>
    have ⟨least, later⟩ := List.pairwise_cons.mp sorted
    have firstNotAbove : Key.order first other ≠ .gt := by
      cases List.mem_cons.mp member with
      | inl same => simp [same, Std.ReflCmp.compare_self]
      | inr inside => exact least other inside
    have notLess : Key.order key first ≠ .lt := by
      rw [Std.TransCmp.congr_left tied]
      exact fun less => firstNotAbove (Std.OrientedCmp.gt_of_lt less)
    have reached : Placement.reach key (first :: rest) = first :: Placement.reach key rest := by
      simp [Placement.reach, notLess]
    rw [reached]
    cases List.mem_cons.mp member with
    | inl same => exact same ▸ List.mem_cons_self
    | inr inside => exact List.mem_cons_of_mem first (ih later inside)

theorem place {entries : List Entry} (sorted : Sorted (shownKeys entries)) (row : Row) :
    Sorted (shownKeys (Entry.place row entries)) := by
  unfold Sorted
  refine pairwise_place ?_ sorted row ?_ ?_ ?_
  · exact fun _ _ _ => order_not_gt_trans
  · intro own _ isOf other
    have tied := (Placement.isOf_iff.mp isOf).1
    have onRight : Key.order other row.displayKey = Key.order other own := Std.TransCmp.congr_right tied
    have onLeft : Key.order row.displayKey other = Key.order own other := Std.TransCmp.congr_left tied
    exact ⟨fun kept => onRight ▸ kept, fun kept => onLeft ▸ kept⟩
  · exact fun other after => Placement.order_ne_gt_of_isAfter after
  · exact fun _ other _ notAfter => order_not_gt_of_swap (Placement.order_ne_lt_of_not_isAfter notAfter)

theorem change {before after : List Entry} (changed : Change before after) (sorted : Sorted (shownKeys before)) :
    Sorted (shownKeys after) := by
  cases changed with
  | kept => exact sorted
  | cleared => exact List.Pairwise.nil
  | removed index => exact List.Pairwise.sublist ((List.eraseIdx_sublist _ _).map _) sorted
  | placed row => exact sorted.place row

/-- Rows in order stay in order, whatever is done to a table and however long. -/
theorem run_sorted (sanitizer : Option (String → String)) (synchronizer : Synchronizer) (entries : List Entry)
    (operations : List Operation) (sorted : Sorted (shownKeys entries)) :
    ∀ step ∈ Operation.run (memoryHost sanitizer) synchronizer entries operations, Sorted (shownKeys step.store) :=
  Change.run sanitizer synchronizer entries (fun _ _ changed kept => change changed kept) operations sorted

def tiedEntries : List Entry := [⟨⟨"9", [.text "Item 9"]⟩, some "nine"⟩, ⟨⟨"9", [.html "<b>item-09</b>"]⟩, none⟩]

theorem run_sorted_from_ties :
    Sorted (shownKeys tiedEntries) ∧
      ∀ step ∈ Operation.run (memoryHost none) ⟨1, {}, .disconnected⟩ tiedEntries
        [.placeRow ⟨"", [.text "ITEM 9"]⟩, .upsert "[\"item 10\"]", .removeNamed "Nine", .close, .reset],
        Sorted (shownKeys step.store) := by
  have sorted : Sorted (shownKeys tiedEntries) := by
    unfold Sorted
    decide +kernel
  exact ⟨sorted, run_sorted none _ tiedEntries _ sorted⟩

end Key.Sorted

end StreamTable
