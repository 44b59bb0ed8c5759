import StreamTable.Proofs.Edits
import StreamTable.Sync.Memory
import Mathlib.Data.List.InsertIdx

/-! What the operations of a synchronizer do to rows in memory, as edits of a list.
A closed synchronizer edits nothing; an active one is described by one equation for
each of its three edits, records apart. What all edits keep is kept by every run. -/

namespace StreamTable

def shownKeys (entries : List Entry) : List String := entries.map fun entry => entry.row.displayKey

@[simp] theorem shownKeys_length (entries : List Entry) : (shownKeys entries).length = entries.length :=
  List.length_map _

namespace Placement

def edit (row : Row) (entries : List Entry) : Placement → List Entry
  | replace index => entries.set index ⟨row, none⟩
  | insert index => entries.insertIdx index ⟨row, none⟩
  | append => entries.insertIdx entries.length ⟨row, none⟩

def outcome (count : Nat) : Placement → Outcome
  | replace index => .replaced index
  | insert index => .inserted index
  | append => .appended count

variable {placement : Placement} {count index : Nat}

theorem outcome_eq_replaced_iff : placement.outcome count = .replaced index ↔ placement = .replace index := by
  cases placement <;> simp [outcome]

theorem outcome_eq_inserted_iff : placement.outcome count = .inserted index ↔ placement = .insert index := by
  cases placement <;> simp [outcome]

theorem outcome_eq_appended_iff : placement.outcome count = .appended index ↔ placement = .append ∧ index = count := by
  cases placement <;> simp [outcome, eq_comm]

end Placement

namespace Entry

def placement (row : Row) (entries : List Entry) : Placement :=
  Placement.among row.displayKey (shownKeys entries)

def place (row : Row) (entries : List Entry) : List Entry := (placement row entries).edit row entries

theorem mem_place {row : Row} {entries : List Entry} {entry : Entry} (member : entry ∈ place row entries) :
    entry = ⟨row, none⟩ ∨ entry ∈ entries := by
  unfold place at member
  cases placed : placement row entries <;> rw [placed] at member
  next index => exact (List.mem_or_eq_of_mem_set member).symm
  next index => exact List.eq_or_mem_of_mem_insertIdx member
  next => exact List.eq_or_mem_of_mem_insertIdx member

def answersTo (target : String) (entry : Entry) : Bool :=
  Key.lowerCase entry.label.effective = Key.lowerCase target

theorem answersTo_iff {target : String} {entry : Entry} (plain : entry.sortKey = none) :
    entry.answersTo target ↔ Key.lowerCase entry.row.displayKey = Key.lowerCase target := by
  simp [answersTo, label, Label.effective, plain]

end Entry

variable (sanitizer : Option (String → String))

theorem memoryHost_labels_length (entries : List Entry) :
    ((memoryHost sanitizer).labels entries).length = entries.length := List.length_map _

namespace Synchronizer

variable (synchronizer : Synchronizer) (entries : List Entry)

theorem placeRow_memory (row : Row) (active : synchronizer.phase ≠ .closed) :
    ∃ records, synchronizer.placeRow (memoryHost sanitizer) row entries =
      ⟨(Entry.placement row entries).outcome entries.length, synchronizer.enter .live,
        Entry.place row entries, records⟩ := by
  have shown : ((memoryHost sanitizer).labels entries).map (·.shown) = shownKeys entries := by
    simp [memoryHost, Entry.label, shownKeys]
  have keyed : (memoryHost sanitizer).keyOf row entries = (row.displayKey, []) := rfl
  simp only [placeRow, active, ite_false, keyed, shown, shownKeys_length, Entry.place, Entry.placement]
  cases Placement.among row.displayKey (shownKeys entries) with
  | replace index | insert index | append => exact ⟨_, rfl⟩

theorem removeNamed_memory (target : String) (active : synchronizer.phase ≠ .closed) :
    ∃ records, synchronizer.removeNamed (memoryHost sanitizer) target entries =
      match entries.findIdx? (Entry.answersTo target) with
      | some index => ⟨.removed index, synchronizer.enter .live, entries.eraseIdx index, records⟩
      | none => ⟨.notFound, synchronizer.enter .live, entries, records⟩ := by
  have found : ((memoryHost sanitizer).labels entries).findIdx?
      (fun label => decide (Key.lowerCase label.effective = Key.lowerCase target)) =
      entries.findIdx? (Entry.answersTo target) := List.findIdx?_map
  simp only [removeNamed, active, ite_false, found]
  cases entries.findIdx? (Entry.answersTo target) with
  | none => exact ⟨_, rfl⟩
  | some index => exact ⟨_, rfl⟩

theorem applyReset_memory (active : synchronizer.phase ≠ .closed) :
    ∃ records, synchronizer.applyReset (memoryHost sanitizer) entries =
      ⟨.cleared entries.length, synchronizer.enter .empty, [], records⟩ := by
  simp only [applyReset, active, ite_false, memoryHost_labels_length]
  exact ⟨_, rfl⟩

end Synchronizer

namespace Edit

def outcome (entries : List Entry) : Edit → Outcome
  | place row => (Entry.placement row entries).outcome entries.length
  | remove target =>
    match entries.findIdx? (Entry.answersTo target) with
    | some index => .removed index
    | none => .notFound
  | reset => .cleared entries.length

def result (entries : List Entry) : Edit → List Entry
  | place row => Entry.place row entries
  | remove target =>
    match entries.findIdx? (Entry.answersTo target) with
    | some index => entries.eraseIdx index
    | none => entries
  | reset => []

def phase : Edit → Phase
  | place _ | remove _ => .live
  | reset => .empty

variable {synchronizer : Synchronizer} (entries : List Entry)

theorem perform_memory (edit : Edit) (active : synchronizer.phase ≠ .closed) :
    ∃ records, edit.operation.perform (memoryHost sanitizer) synchronizer entries =
      ⟨some (edit.outcome entries), synchronizer.enter edit.phase, edit.result entries, records⟩ := by
  cases edit with
  | place row =>
    obtain ⟨records, done⟩ := synchronizer.placeRow_memory sanitizer entries row active
    exact ⟨records, by simp only [operation, Operation.perform, done]; rfl⟩
  | remove target =>
    obtain ⟨records, done⟩ := synchronizer.removeNamed_memory sanitizer entries target active
    refine ⟨records, ?_⟩
    simp only [operation, Operation.perform, done, outcome, result]
    cases entries.findIdx? (Entry.answersTo target) <;> rfl
  | reset =>
    obtain ⟨records, done⟩ := synchronizer.applyReset_memory sanitizer entries active
    exact ⟨records, by simp only [operation, Operation.perform, done]; rfl⟩

theorem mem_result {entries : List Entry} {edit : Edit} {entry : Entry} (member : entry ∈ edit.result entries) :
    entry ∈ entries ∨ ∃ row ∈ edit.row?, entry = ⟨row, none⟩ := by
  cases edit with
  | place row =>
    cases Entry.mem_place member with
    | inl new => exact Or.inr ⟨row, rfl, new⟩
    | inr old => exact Or.inl old
  | remove target =>
    simp only [result] at member
    split at member
    · exact Or.inl (List.mem_of_mem_eraseIdx member)
    · exact Or.inl member
  | reset => cases member

theorem plain_result {entries : List Entry} (plain : ∀ entry ∈ entries, entry.sortKey = none) (edit : Edit) :
    ∀ entry ∈ edit.result entries, entry.sortKey = none := by
  intro entry member
  obtain old | ⟨row, _, rfl⟩ := mem_result member
  · exact plain entry old
  · rfl

end Edit

namespace Operation

variable (synchronizer : Synchronizer) (entries : List Entry)

/-- What an operation leaves of a synchronizer over rows in memory. -/
inductive Leaves (operation : Operation) : Step (List Entry) → Prop where
  | quiet (silent : operation.isQuiet synchronizer.settings = true) :
      Leaves operation (.quiet (operation.moved synchronizer) entries)
  | dropped (told : operation.isQuiet synchronizer.settings = false)
      (reason : synchronizer.phase = .closed ∨ operation.edit? sanitizer synchronizer = none) (records : List Record) :
      Leaves operation ⟨some .dropped, synchronizer, entries, records⟩
  | edited (told : operation.isQuiet synchronizer.settings = false) (active : synchronizer.phase ≠ .closed)
      (edit : Edit) (asked : operation.edit? sanitizer synchronizer = some edit) (records : List Record) :
      Leaves operation ⟨some (edit.outcome entries), synchronizer.enter edit.phase, edit.result entries, records⟩

theorem leaves (operation : Operation) :
    operation.Leaves sanitizer synchronizer entries (operation.perform (memoryHost sanitizer) synchronizer entries) := by
  cases operation.course sanitizer synchronizer with
  | quiet silent done => exact done (memoryHost sanitizer) entries ▸ .quiet silent
  | dropped told useless records done =>
    exact done (memoryHost sanitizer) entries ▸ .dropped told (Or.inr useless) records
  | edited told edit asked records done =>
    rw [done (memoryHost sanitizer) entries fun _ _ => rfl]
    by_cases closed : synchronizer.phase = .closed
    · obtain ⟨later, dropped⟩ := edit.perform_closed (memoryHost sanitizer) entries closed
      rw [dropped]
      exact .dropped told (Or.inl closed) (records ++ later)
    · obtain ⟨later, performed⟩ := edit.perform_memory sanitizer entries closed
      rw [performed]
      exact .edited told closed edit asked (records ++ later)

/-- What every edit keeps is kept by a run, after each of its steps. The rows that the
edits place are those of the run. -/
theorem run_keeps {property : List Entry → Prop} (operations : List Operation)
    (kept : ∀ edit : Edit, (∀ row ∈ edit.row?, row ∈ placedRows sanitizer synchronizer operations) →
      ∀ before, property before → property (edit.result before)) (initial : property entries) :
    ∀ step ∈ run (memoryHost sanitizer) synchronizer entries operations, property step.store := by
  induction operations generalizing synchronizer entries with
  | nil => simp [run]
  | cons operation rest ih =>
    have next : property (operation.perform (memoryHost sanitizer) synchronizer entries).store := by
      have left := operation.leaves sanitizer synchronizer entries
      generalize operation.perform (memoryHost sanitizer) synchronizer entries = step at left
      cases left with
      | quiet | dropped => exact initial
      | edited _ active edit asked =>
        refine kept edit (fun row given => mem_placedRows_first active ?_) entries initial
        exact Option.bind_eq_some_iff.mpr ⟨edit, asked, given⟩
    obtain ⟨phase, entered, closed⟩ := operation.perform_enters synchronizer (memoryHost sanitizer) entries
    intro step member
    cases List.mem_cons.mp member with
    | inl first => exact first ▸ next
    | inr later =>
      rw [entered] at later
      refine ih _ _ (fun edit placed => kept edit fun row given => ?_) next step later
      exact mem_placedRows_later closed (placed row given)

theorem rowsAfter_keeps {property : List Entry → Prop} (operations : List Operation)
    (kept : ∀ edit : Edit, (∀ row ∈ edit.row?, row ∈ placedRows sanitizer synchronizer operations) →
      ∀ before, property before → property (edit.result before)) (initial : property entries) :
    property (rowsAfter (memoryHost sanitizer) synchronizer entries operations) := by
  have steps := run_keeps sanitizer synchronizer entries operations kept initial
  unfold rowsAfter
  cases last : (run (memoryHost sanitizer) synchronizer entries operations).getLast? with
  | none => exact initial
  | some step => exact steps step (List.mem_of_getLast? last)

end Operation

/-- The lists of entries that one operation may leave of another list. -/
inductive Change (before : List Entry) : List Entry → Prop where
  | kept : Change before before
  | cleared : Change before []
  | removed (index : Nat) : Change before (before.eraseIdx index)
  | placed (row : Row) : Change before (Entry.place row before)

namespace Change

theorem edit (before : List Entry) (edit : Edit) : Change before (edit.result before) := by
  cases edit with
  | place row => exact .placed row
  | remove target =>
    simp only [Edit.result]
    split
    · exact .removed _
    · exact .kept
  | reset => exact .cleared

theorem run (synchronizer : Synchronizer) (entries : List Entry) {property : List Entry → Prop}
    (kept : ∀ before after, Change before after → property before → property after)
    (operations : List Operation) (initial : property entries) :
    ∀ step ∈ Operation.run (memoryHost sanitizer) synchronizer entries operations, property step.store :=
  Operation.run_keeps sanitizer synchronizer entries operations
    (fun edit _ before => kept before _ (Change.edit before edit)) initial

end Change

end StreamTable
