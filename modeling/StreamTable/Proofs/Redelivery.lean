import StreamTable.Proofs.RepeatedPlacement

/-! A row that is delivered again finds itself where it was put, whatever rows stand around
it and in whatever order, and takes its own place. From then on nothing changes however
often and in whatever way it is delivered. -/

namespace StreamTable

namespace Entry

variable (row : Row) (entries : List Entry)

theorem getElem?_place : (place row entries)[(placement row entries).index entries.length]? = some ⟨row, none⟩ := by
  rw [place_eq_put]
  exact Placement.getElem?_put _ (placement_fits row entries)

theorem placement_place :
    placement row (place row entries) = .replace ((placement row entries).index entries.length) := by
  have shown : shownKeys (place row entries) =
      (Placement.among row.displayKey (shownKeys entries)).put row.displayKey (shownKeys entries) := by
    rw [place_eq_put, shownKeys, Placement.map_put]
    rfl
  rw [placement, shown, Placement.among_put, shownKeys_length]
  rfl

theorem place_place : place row (place row entries) = place row entries := by
  obtain ⟨inside, same⟩ := List.getElem?_eq_some_iff.mp (getElem?_place row entries)
  rw [place, placement_place, Placement.edit, ← same, List.set_getElem_self]

end Entry

/-- A step that puts a row over itself, so that nothing but its outcome tells of it. -/
structure Step.Replaces (index : Nat) (synchronizer : Synchronizer) (entries : List Entry) (step : Step (List Entry)) :
    Prop where
  outcome : step.outcome = some (.replaced index)
  store : step.store = entries
  synchronizer : step.synchronizer = synchronizer

namespace Operation

variable (sanitizer : Option (String → String)) {synchronizer : Synchronizer} {row : Row} (entries : List Entry)

private theorem replaces_of_edit? (live : synchronizer.phase = .live) {operation : Operation}
    (asked : operation.edit? sanitizer synchronizer = some (.place row)) :
    (operation.perform (memoryHost sanitizer) synchronizer (Entry.place row entries)).Replaces
      ((Entry.placement row entries).index entries.length) synchronizer (Entry.place row entries) := by
  have left := operation.leaves sanitizer synchronizer (Entry.place row entries)
  generalize operation.perform (memoryHost sanitizer) synchronizer (Entry.place row entries) = step at left
  cases left with
  | quiet silent =>
    rw [edit?_of_isQuiet silent] at asked
    cases asked
  | dropped _ reason =>
    rcases reason with closed | useless
    · rw [live] at closed
      cases closed
    · rw [useless] at asked
      cases asked
  | edited _ _ edit other =>
    cases other.symm.trans asked
    refine ⟨?_, Entry.place_place row entries, ?_⟩
    · rw [Edit.outcome, Entry.placement_place]
      rfl
    · cases synchronizer
      cases live
      rfl

/-- However often the row is brought, each time it replaces itself. -/
theorem run_replaces (live : synchronizer.phase = .live) (later : List Operation)
    (brought : ∀ operation ∈ later, operation.edit? sanitizer synchronizer = some (.place row)) :
    ∀ step ∈ run (memoryHost sanitizer) synchronizer (Entry.place row entries) later,
      step.Replaces ((Entry.placement row entries).index entries.length) synchronizer (Entry.place row entries) := by
  induction later with
  | nil => simp [run]
  | cons operation rest ih =>
    have first := replaces_of_edit? sanitizer entries live (brought operation List.mem_cons_self)
    intro step member
    rw [run, first.synchronizer, first.store] at member
    cases List.mem_cons.mp member with
    | inl same => exact same ▸ first
    | inr after => exact ih (fun operation inside => brought operation (List.mem_cons_of_mem _ inside)) step after

end Operation

/-- Delivering a row again is idempotent: at whatever index the row was put, the next
delivery replaces the row there and changes nothing, and so do all that follow it. -/
theorem redelivery_idempotent (sanitizer : Option (String → String)) (synchronizer : Synchronizer)
    (active : synchronizer.phase ≠ .closed) (row : Row) (entries : List Entry) :
    let first := synchronizer.placeRow (memoryHost sanitizer) row entries
    ∃ index, (first.outcome = .inserted index ∨ first.outcome = .appended index ∨ first.outcome = .replaced index) ∧
      (first.synchronizer.placeRow (memoryHost sanitizer) row first.store).toStep.Replaces index
        first.synchronizer first.store ∧
      ∀ later : List Operation, (∀ operation ∈ later, operation.edit? sanitizer synchronizer = some (.place row)) →
        ∀ step ∈ Operation.run (memoryHost sanitizer) first.synchronizer first.store later,
          step.Replaces index first.synchronizer first.store := by
  intro first
  obtain ⟨records, done⟩ := synchronizer.placeRow_memory sanitizer entries row active
  have live : (synchronizer.enter .live).phase = .live := rfl
  have repeated := @Operation.run_replaces sanitizer _ row entries live
  simp only [first, done]
  refine ⟨(Entry.placement row entries).index entries.length, (Entry.placement row entries).outcome_eq _, ?_,
    fun later brought => repeated later brought⟩
  exact repeated [.placeRow row] (by simp [Operation.edit?]) _ List.mem_cons_self

def duplicatedEntries : List Entry :=
  [⟨⟨"zed", [.text "zed"]⟩, none⟩, ⟨⟨"bob", [.text "bob"]⟩, some "robert"⟩, ⟨⟨"B", [.html "<b>BOB</b>"]⟩, none⟩]

theorem redelivery_idempotent_duplicated :
    let synchronizer : Synchronizer := ⟨1, { htmlColumns := .empty }, .empty⟩
    let row : Row := ⟨"Bob", [.text "Bob"]⟩
    let first := synchronizer.placeRow (memoryHost none) row duplicatedEntries
    let later : List Operation := [.placeRow row, .upsert "[\"Bob\", 7]", .named "connect" " [ \"\\u0042ob\" ] "]
    first.outcome = .inserted 0 ∧ (∀ operation ∈ later, operation.edit? none synchronizer = some (.place row)) ∧
      ∃ index, (first.outcome = .inserted index ∨ first.outcome = .appended index ∨ first.outcome = .replaced index) ∧
        (first.synchronizer.placeRow (memoryHost none) row first.store).toStep.Replaces index
          first.synchronizer first.store ∧
        ∀ step ∈ Operation.run (memoryHost none) first.synchronizer first.store later,
          step.Replaces index first.synchronizer first.store := by
  intro synchronizer row first later
  have brought : ∀ operation ∈ later, operation.edit? none synchronizer = some (.place row) := by decide +kernel
  obtain ⟨index, told, again, repeated⟩ := redelivery_idempotent none synchronizer (by decide) row duplicatedEntries
  exact ⟨by decide +kernel, brought, index, told, again, repeated later brought⟩

end StreamTable
