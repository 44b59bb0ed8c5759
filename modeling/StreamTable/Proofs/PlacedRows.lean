import StreamTable.Proofs.PlacementScan
import StreamTable.Proofs.RowChanges

/-! Where a placed row stands among the others. A relation that holds from each key to
every later one goes on to hold if a key may stand in for the one that it replaces,
and otherwise is related as it should be to the keys before and after its slot. -/

namespace StreamTable

section Pairwise

variable {α : Type} {related : α → α → Prop} {items front back : List α} {item : α} {index : Nat}

theorem insertIdx_eq_append (item : α) (inside : index ≤ items.length) :
    items.insertIdx index item = items.take index ++ item :: items.drop index := by
  induction items generalizing index with
  | nil => simp [Nat.le_zero.mp inside]
  | cons first rest ih =>
    cases index with
    | zero => rfl
    | succ index => simpa using ih (Nat.le_of_succ_le_succ inside)

theorem pairwise_between (pairwise : (front ++ back).Pairwise related) (before : ∀ other ∈ front, related other item)
    (after : ∀ other ∈ back, related item other) : (front ++ item :: back).Pairwise related := by
  have ⟨inFront, inBack, across⟩ := List.pairwise_append.mp pairwise
  refine List.pairwise_append.mpr ⟨inFront, List.pairwise_cons.mpr ⟨after, inBack⟩, ?_⟩
  intro first firstMember second secondMember
  cases List.mem_cons.mp secondMember with
  | inl same => exact same ▸ before first firstMember
  | inr later => exact across first firstMember second later

/-- An item may stand in for another one that is related to nothing else. -/
theorem pairwise_set (pairwise : items.Pairwise related) (inside : index < items.length)
    (standsIn : ∀ other, (related other items[index] → related other item) ∧
      (related items[index] other → related item other)) :
    (items.set index item).Pairwise related := by
  have whole : (items.take index ++ items[index] :: items.drop (index + 1)).Pairwise related := by
    rwa [← List.drop_eq_getElem_cons inside, List.take_append_drop]
  have ⟨_, back, across⟩ := List.pairwise_append.mp whole
  rw [List.set_eq_take_append_cons_drop, if_pos inside]
  apply pairwise_between (whole.sublist (List.Sublist.append_left (List.sublist_cons_self _ _) _))
  · exact fun other member => (standsIn other).1 (across other member _ List.mem_cons_self)
  · exact fun other member => (standsIn other).2 ((List.pairwise_cons.mp back).1 other member)

theorem pairwise_insertIdx (trans : ∀ a b c, related a b → related b c → related a c)
    (pairwise : items.Pairwise related) (inside : index < items.length) (above : related item items[index])
    (before : ∀ other ∈ items.take index, related other item) : (items.insertIdx index item).Pairwise related := by
  rw [insertIdx_eq_append item (Nat.le_of_lt inside)]
  apply pairwise_between ((List.take_append_drop index items).symm ▸ pairwise) before
  have back : (items.drop index).Pairwise related := pairwise.sublist (List.drop_sublist _ _)
  rw [List.drop_eq_getElem_cons inside] at back ⊢
  intro other member
  cases List.mem_cons.mp member with
  | inl same => exact same ▸ above
  | inr later => exact trans _ _ _ above ((List.pairwise_cons.mp back).1 other later)

end Pairwise

variable {entries : List Entry}

theorem pairwise_place {related : String → String → Prop} (trans : ∀ a b c, related a b → related b c → related a c)
    (pairwise : (shownKeys entries).Pairwise related) (row : Row)
    (standsIn : ∀ own ∈ shownKeys entries, Placement.isOf row.displayKey own → ∀ other,
      (related other own → related other row.displayKey) ∧ (related own other → related row.displayKey other))
    (above : ∀ other, Placement.isAfter row.displayKey other → related row.displayKey other)
    (below : (∀ index, Entry.placement row entries ≠ .replace index) → ∀ other ∈ shownKeys entries,
      Placement.isAfter row.displayKey other = false → related other row.displayKey) :
    (shownKeys (Entry.place row entries)).Pairwise related := by
  unfold Entry.place
  cases placed : Entry.placement row entries with
  | replace index =>
    obtain ⟨inside, own⟩ := Placement.of_among_replace placed
    simpa only [Placement.edit, shownKeys, List.map_set] using
      pairwise_set pairwise inside (standsIn _ (List.getElem_mem inside) own)
  | insert index =>
    obtain ⟨inside, after, earlier⟩ := Placement.of_among_insert placed
    have before : ∀ other ∈ (shownKeys entries).take index, related other row.displayKey := by
      intro other member
      obtain ⟨position, bound, rfl⟩ := List.mem_take_iff_getElem.mp member
      exact below (by simp [placed]) _ (List.getElem_mem _) (earlier position (by omega))
    simpa only [Placement.edit, shownKeys, List.map_insertIdx] using
      pairwise_insertIdx trans pairwise inside (above _ after) before
  | append =>
    have before : ∀ other ∈ shownKeys entries, related other row.displayKey := fun other member =>
      below (by simp [placed]) other member (Placement.of_among_append placed other member)
    have whole : (shownKeys entries ++ []).Pairwise related := by rwa [List.append_nil]
    simpa [Placement.edit, shownKeys, List.insertIdx_length_self] using pairwise_between whole before (by simp)

theorem place_perm_cons {row : Row} (added : ∀ index, Entry.placement row entries ≠ .replace index) :
    (Entry.place row entries).Perm (⟨row, none⟩ :: entries) := by
  unfold Entry.place
  cases placed : Entry.placement row entries with
  | replace index => exact False.elim (added index placed)
  | insert index =>
    obtain ⟨inside, -⟩ := Placement.of_among_insert placed
    rw [shownKeys_length] at inside
    exact List.perm_insertIdx _ _ (Nat.le_of_lt inside)
  | append => exact List.perm_insertIdx _ _ (Nat.le_refl _)

end StreamTable
