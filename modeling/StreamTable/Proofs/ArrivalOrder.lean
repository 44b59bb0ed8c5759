import StreamTable.Proofs.SortedRows
import Mathlib.Data.List.Nodup
import Mathlib.Data.List.Perm.Basic

/-! Arrival order does not matter where each identity is spelled in one way. Then a row
only ever replaces one of its own normal form, and a new row has a normal form that no
other row has. So the rows ascend strictly by the total order, and a strictly ascending
list is determined by its members. -/

namespace StreamTable

namespace Key

/-- Keys of which those with one identity have one normal form. -/
def SpelledOnce (keys : List String) : Prop :=
  ∀ first ∈ keys, ∀ second ∈ keys, identity first = identity second → normalize first = normalize second

instance (keys : List String) : Decidable (SpelledOnce keys) :=
  inferInstanceAs (Decidable (∀ first ∈ keys, ∀ second ∈ keys, _))

theorem identity_eq_of_normalize_eq {first second : String} (same : normalize first = normalize second) :
    identity first = identity second := by
  have forms : normalizeText first.toList = normalizeText second.toList := String.ofList_inj.mp same
  rw [identity, identity, identityText, identityText, forms]

theorem spelledOnce_of_distinct {keys : List String} (distinct : (keys.map identity).Nodup) : SpelledOnce keys := by
  intro first firstMember second secondMember same
  rw [List.inj_on_of_nodup_map distinct firstMember secondMember same]

/-- Every key sorts before all later ones by the total order. -/
def Ascending (keys : List String) : Prop := keys.Pairwise fun first second => orderTotal first second = .lt

namespace Ascending

theorem sorted {keys : List String} (ascending : Ascending keys) : Sorted keys :=
  ascending.imp fun less => Placement.order_ne_gt_of_isAfter (Placement.isAfter_iff.mpr less)

variable {entries : List Entry} {row : Row}

/-- A row that is added has a normal form of its own, for a row of the same normal form
ties with it and has its identity. -/
private theorem orderTotal_ne_eq (ascending : Ascending (shownKeys entries))
    (added : ∀ index, Entry.placement row entries ≠ .replace index) {other : String}
    (member : other ∈ shownKeys entries) : orderTotal row.displayKey other ≠ .eq := by
  intro tiedTotally
  have same := ((orderTotal_eq_iff _ _).mp tiedTotally).symm
  rw [orderTotal_eq_then, Ordering.then_eq_eq] at tiedTotally
  have tied := tiedTotally.1
  have own := Placement.isOf_iff.mpr ⟨tied, identity_eq_of_normalize_eq same⟩
  obtain ⟨index, replaced⟩ := Placement.among_replace_of_reach (ascending.sorted.mem_reach member tied) own
  exact added index replaced

theorem place (ascending : Ascending (shownKeys entries))
    (spelled : ∀ other ∈ shownKeys entries, identity other = identity row.displayKey →
      normalize other = normalize row.displayKey) : Ascending (shownKeys (Entry.place row entries)) := by
  unfold Ascending
  refine pairwise_place ?_ ascending row ?_ ?_ ?_
  · exact fun _ _ _ => Std.TransCmp.lt_trans
  · intro own member isOf other
    have same := (Placement.isOf_iff.mp isOf).2
    have tied := (orderTotal_eq_iff _ _).mpr (spelled own member same).symm
    have onRight : orderTotal other row.displayKey = orderTotal other own := Std.TransCmp.congr_right tied
    have onLeft : orderTotal row.displayKey other = orderTotal own other := Std.TransCmp.congr_left tied
    exact ⟨onRight.trans, onLeft.trans⟩
  · exact fun other after => Placement.isAfter_iff.mp after
  · intro added other member notAfter
    cases answer : orderTotal row.displayKey other with
    | lt => simp [Placement.isAfter, answer] at notAfter
    | eq => exact False.elim (ascending.orderTotal_ne_eq added member answer)
    | gt => exact Std.OrientedCmp.lt_of_gt answer

end Ascending

end Key

/-- What holds of a table that was filled under the given keys: its rows ascend, and
nothing but the rows is in it. -/
structure Arranged (keys : List String) (entries : List Entry) : Prop where
  ascending : Key.Ascending (shownKeys entries)
  plain : ∀ entry ∈ entries, entry.sortKey = none
  known : ∀ entry ∈ entries, entry.row.displayKey ∈ keys

namespace Arranged

variable {keys others : List String} {entries otherEntries : List Entry}

theorem initial (keys : List String) : Arranged keys [] := ⟨.nil, by simp, by simp⟩

private theorem ascending_result (arranged : Arranged keys entries) (spelled : Key.SpelledOnce keys) (edit : Edit)
    (placed : ∀ row ∈ edit.row?, row.displayKey ∈ keys) : Key.Ascending (shownKeys (edit.result entries)) := by
  cases edit with
  | place row =>
    apply arranged.ascending.place
    intro other member
    obtain ⟨entry, inside, rfl⟩ := List.mem_map.mp member
    exact spelled _ (arranged.known entry inside) _ (placed row rfl)
  | remove target =>
    simp only [Edit.result]
    split
    · exact List.Pairwise.sublist ((List.eraseIdx_sublist _ _).map _) arranged.ascending
    · exact arranged.ascending
  | reset => exact List.Pairwise.nil

theorem edit (arranged : Arranged keys entries) (spelled : Key.SpelledOnce keys) (edit : Edit)
    (placed : ∀ row ∈ edit.row?, row.displayKey ∈ keys) : Arranged keys (edit.result entries) where
  ascending := arranged.ascending_result spelled edit placed
  plain := Edit.plain_result arranged.plain edit
  known entry member := by
    obtain old | ⟨row, given, rfl⟩ := Edit.mem_result member
    · exact arranged.known entry old
    · exact placed row given

theorem eq_map_row (arranged : Arranged keys entries) :
    entries = (entries.map Entry.row).map fun row => ⟨row, none⟩ := by
  have restored : entries.map (fun entry => (⟨entry.row, none⟩ : Entry)) = entries.map id := by
    apply List.map_congr_left
    intro entry member
    rw [← arranged.plain entry member]
    rfl
  rw [List.map_map]
  exact (restored.trans (List.map_id entries)).symm

private theorem rows_ascending (arranged : Arranged keys entries) :
    (entries.map Entry.row).Pairwise fun first second => Key.orderTotal first.displayKey second.displayKey = .lt :=
  List.pairwise_map.mpr (List.pairwise_map.mp arranged.ascending)

private theorem rows_nodup (arranged : Arranged keys entries) : (entries.map Entry.row).Nodup := by
  refine arranged.rows_ascending.imp fun {first second} less same => ?_
  have tied : Key.orderTotal second.displayKey second.displayKey = .eq := Std.ReflCmp.compare_self
  rw [same, tied] at less
  cases less

/-- Arranged tables of the same rows are the same tables. -/
theorem eq_of_same_rows (arranged : Arranged keys entries) (otherArranged : Arranged others otherEntries)
    (same : ∀ row, row ∈ entries.map Entry.row ↔ row ∈ otherEntries.map Entry.row) : entries = otherEntries := by
  have perm : (entries.map Entry.row).Perm (otherEntries.map Entry.row) :=
    (List.perm_ext_iff_of_nodup arranged.rows_nodup otherArranged.rows_nodup).mpr same
  have rows : entries.map Entry.row = otherEntries.map Entry.row := by
    refine List.Perm.eq_of_pairwise ?_ arranged.rows_ascending otherArranged.rows_ascending perm
    intro first second _ _ less greater
    rw [Std.OrientedCmp.gt_of_lt less] at greater
    cases greater
  rw [arranged.eq_map_row, otherArranged.eq_map_row, rows]

end Arranged

/-- A run over a table that is empty at first. -/
structure Filling where
  sanitizer : Option (String → String)
  synchronizer : Synchronizer
  operations : List Operation

namespace Filling

variable (filling : Filling)

def steps : List (Step (List Entry)) :=
  Operation.run (memoryHost filling.sanitizer) filling.synchronizer [] filling.operations

def left : List Entry :=
  Operation.rowsAfter (memoryHost filling.sanitizer) filling.synchronizer [] filling.operations

def keys : List String :=
  (Operation.placedRows filling.sanitizer filling.synchronizer filling.operations).map Row.displayKey

variable {filling}

private theorem arranged_result (spelled : Key.SpelledOnce filling.keys) (edit : Edit)
    (placed : ∀ row ∈ edit.row?, row ∈ Operation.placedRows filling.sanitizer filling.synchronizer filling.operations)
    (before : List Entry) (arranged : Arranged filling.keys before) : Arranged filling.keys (edit.result before) :=
  arranged.edit spelled edit fun row given => List.mem_map_of_mem (placed row given)

theorem arranged_step (spelled : Key.SpelledOnce filling.keys) : ∀ step ∈ filling.steps, Arranged filling.keys step.store :=
  Operation.run_keeps _ _ _ _ (arranged_result spelled) (Arranged.initial filling.keys)

theorem arranged_left (spelled : Key.SpelledOnce filling.keys) : Arranged filling.keys filling.left :=
  Operation.rowsAfter_keeps _ _ _ _ (arranged_result spelled) (Arranged.initial filling.keys)

end Filling

theorem rowsAfter_placing_perm (sanitizer : Option (String → String)) {synchronizer : Synchronizer}
    (active : synchronizer.phase ≠ .closed) (entries : List Entry) (rows : List Row)
    (distinct : ((shownKeys entries ++ rows.map Row.displayKey).map Key.identity).Nodup) :
    (Operation.rowsAfter (memoryHost sanitizer) synchronizer entries (rows.map .placeRow)).Perm
      (entries ++ rows.map fun row => ⟨row, none⟩) := by
  induction rows generalizing synchronizer entries with
  | nil => simp [Operation.rowsAfter, Operation.run]
  | cons row rest ih =>
    have added (index : Nat) : Entry.placement row entries ≠ .replace index := by
      intro replaced
      obtain ⟨inside, own⟩ := Placement.of_among_replace replaced
      rw [List.map_append, List.nodup_append] at distinct
      obtain ⟨-, -, apart⟩ := distinct
      exact apart _ (List.mem_map_of_mem (List.getElem_mem inside)) _ (by simp) (Placement.isOf_iff.mp own).2
    have perm : (Entry.place row entries).Perm (⟨row, none⟩ :: entries) := place_perm_cons added
    have moved : (shownKeys (Entry.place row entries) ++ rest.map Row.displayKey).Perm
        (shownKeys entries ++ (row :: rest).map Row.displayKey) :=
      ((perm.map fun entry => entry.row.displayKey).append_right _).trans List.perm_middle.symm
    obtain ⟨records, done⟩ := synchronizer.placeRow_memory sanitizer entries row active
    have next := ih synchronizer.active_enter_live (Entry.place row entries) ((moved.map Key.identity).nodup_iff.mpr distinct)
    rw [List.map_cons, Operation.rowsAfter_cons]
    simp only [Operation.perform, done, Effect.toStep]
    exact next.trans ((perm.append_right _).trans List.perm_middle.symm)

def Filling.placing (sanitizer : Option (String → String)) (synchronizer : Synchronizer) (rows : List Row) : Filling :=
  ⟨sanitizer, synchronizer, rows.map .placeRow⟩

private theorem spelledOnce_placing (sanitizer : Option (String → String)) (synchronizer : Synchronizer)
    {rows : List Row} (distinct : ((rows.map Row.displayKey).map Key.identity).Nodup) :
    Key.SpelledOnce (Filling.placing sanitizer synchronizer rows).keys := by
  have placed : (Filling.placing sanitizer synchronizer rows).keys ⊆ rows.map Row.displayKey := by
    intro key member
    obtain ⟨row, given, rfl⟩ := List.mem_map.mp member
    simp only [Operation.placedRows] at given
    split at given
    · cases given
    · obtain ⟨operation, asked, brought⟩ := List.mem_filterMap.mp given
      obtain ⟨own, inside, rfl⟩ := List.mem_map.mp ((List.takeWhile_sublist _).mem asked)
      cases brought
      exact List.mem_map_of_mem inside
  have spelled : Key.SpelledOnce (rows.map Row.displayKey) := Key.spelledOnce_of_distinct distinct
  exact fun first firstMember second secondMember =>
    spelled first (placed firstMember) second (placed secondMember)

/-- Arrival order does not matter where each identity is spelled in one way. The rows
ascend by the total order after every step, so runs that leave the same rows leave them
in the same order, and rows of different identities may be placed in any order. -/
theorem arrival_order_irrelevant :
    (∀ filling : Filling, Key.SpelledOnce filling.keys →
      ∀ step ∈ filling.steps, Key.Ascending (shownKeys step.store)) ∧
    (∀ first second : Filling, Key.SpelledOnce first.keys → Key.SpelledOnce second.keys →
      (∀ row, row ∈ first.left.map Entry.row ↔ row ∈ second.left.map Entry.row) → first.left = second.left) ∧
    ∀ (sanitizer : Option (String → String)) (synchronizer : Synchronizer) (rows others : List Row),
      synchronizer.phase ≠ .closed → ((rows.map Row.displayKey).map Key.identity).Nodup → rows.Perm others →
        (Filling.placing sanitizer synchronizer rows).left = (Filling.placing sanitizer synchronizer others).left ∧
          (Filling.placing sanitizer synchronizer rows).left.Perm (rows.map fun row => ⟨row, none⟩) := by
  refine ⟨?_, ?_, ?_⟩
  · exact fun filling spelled step member => (Filling.arranged_step spelled step member).ascending
  · exact fun first second spelled otherSpelled same =>
      (Filling.arranged_left spelled).eq_of_same_rows (Filling.arranged_left otherSpelled) same
  · intro sanitizer synchronizer rows others active distinct perm
    have otherDistinct := ((perm.map Row.displayKey).map Key.identity).nodup_iff.mp distinct
    have kept := rowsAfter_placing_perm sanitizer active [] rows distinct
    have otherKept := rowsAfter_placing_perm sanitizer active [] others otherDistinct
    have arranged := Filling.arranged_left (spelledOnce_placing sanitizer synchronizer distinct)
    have otherArranged := Filling.arranged_left (spelledOnce_placing sanitizer synchronizer otherDistinct)
    refine ⟨arranged.eq_of_same_rows otherArranged fun row => ?_, kept⟩
    have same := kept.trans ((perm.map _).trans otherKept.symm)
    exact (same.map Entry.row).mem_iff

def tiedRows : List Row :=
  [⟨"1", [.text "node 7"]⟩, ⟨"2", [.html "Node<b>-07</b>"]⟩, ⟨"3", [.text "node_007"]⟩]

/-- One client is placed under another spelling of its normal form and then again. -/
def respelledFilling : Filling :=
  ⟨none, ⟨1, {}, .live⟩, .placeRow ⟨"1", [.text " node  7"]⟩ :: tiedRows.map .placeRow⟩

/-- The same clients arrive in another order, after a reset and a removal. -/
def reversedFilling : Filling where
  sanitizer := none
  synchronizer := ⟨1, {}, .connecting⟩
  operations :=
    [.upsert "[\"zed\"]", .reset, .upsert "[\"node 8\"]"] ++ tiedRows.reverse.map .placeRow ++ [.remove "NODE 8"]

theorem arrival_order_irrelevant_ties :
    Key.SpelledOnce respelledFilling.keys ∧ Key.SpelledOnce reversedFilling.keys ∧
      (∀ step ∈ reversedFilling.steps, Key.Ascending (shownKeys step.store)) ∧
      (∀ row, row ∈ respelledFilling.left.map Entry.row ↔ row ∈ reversedFilling.left.map Entry.row) ∧
      respelledFilling.left = reversedFilling.left ∧
      ((tiedRows.map Row.displayKey).map Key.identity).Nodup ∧
      (Filling.placing none ⟨1, {}, .empty⟩ tiedRows).left =
        (Filling.placing none ⟨1, {}, .empty⟩ tiedRows.reverse).left ∧
      (Filling.placing none ⟨1, {}, .empty⟩ tiedRows).left.Perm (tiedRows.map fun row => ⟨row, none⟩) := by
  have spelled : Key.SpelledOnce respelledFilling.keys := by decide +kernel
  have otherSpelled : Key.SpelledOnce reversedFilling.keys := by decide +kernel
  have perm : (respelledFilling.left.map Entry.row).Perm (reversedFilling.left.map Entry.row) := by decide +kernel
  have distinct : ((tiedRows.map Row.displayKey).map Key.identity).Nodup := by decide +kernel
  obtain ⟨ascending, sameRows, anyOrder⟩ := arrival_order_irrelevant
  exact ⟨spelled, otherSpelled, ascending reversedFilling otherSpelled, fun _ => perm.mem_iff,
    sameRows _ _ spelled otherSpelled fun _ => perm.mem_iff, distinct,
    anyOrder none ⟨1, {}, .empty⟩ tiedRows tiedRows.reverse (by decide) distinct tiedRows.reverse_perm.symm⟩

end StreamTable
