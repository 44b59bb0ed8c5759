import StreamTable.Proofs.HostAgreement
import StreamTable.Proofs.PlacedRows

/-! Outcomes tell what became of the rows. Replayed on a copy of the rows, with the row
that each operation brought, they give the same rows again, and every index that they
name is one of a row, or the one after the last for an appended row. -/

namespace StreamTable

namespace Outcome

/-- Does to rows what an outcome says was done, given the row that was brought. There
are no rows to show for an outcome that cannot be true of these. -/
def replay? (row? : Option Row) (entries : List Entry) : Outcome → Option (List Entry)
  | inserted index => if index < entries.length then row?.map fun row => entries.insertIdx index ⟨row, none⟩ else none
  | appended index => if index = entries.length then row?.map fun row => entries ++ [⟨row, none⟩] else none
  | replaced index => if index < entries.length then row?.map fun row => entries.set index ⟨row, none⟩ else none
  | removed index => if index < entries.length then some (entries.eraseIdx index) else none
  | cleared count => if count = entries.length then some [] else none
  | notFound | dropped => some entries

/-- Replays the outcomes of a run. An operation without one leaves the rows alone. -/
def replayAll? : List (Option Row × Option Outcome) → List Entry → Option (List Entry)
  | [], entries => some entries
  | (_, none) :: rest, entries => replayAll? rest entries
  | (row?, some outcome) :: rest, entries => (outcome.replay? row? entries).bind (replayAll? rest)

end Outcome

theorem Edit.replay?_outcome (edit : Edit) (entries : List Entry) :
    (edit.outcome entries).replay? edit.row? entries = some (edit.result entries) := by
  cases edit with
  | place row =>
    simp only [outcome, result, Entry.place]
    cases placed : Entry.placement row entries with
    | replace index =>
      obtain ⟨inside, -⟩ := Placement.of_among_replace placed
      rw [shownKeys_length] at inside
      simp [Placement.outcome, Placement.edit, Outcome.replay?, row?, inside]
    | insert index =>
      obtain ⟨inside, -⟩ := Placement.of_among_insert placed
      rw [shownKeys_length] at inside
      simp [Placement.outcome, Placement.edit, Outcome.replay?, row?, inside]
    | append => simp [Placement.outcome, Placement.edit, Outcome.replay?, row?, List.insertIdx_length_self]
  | remove target =>
    simp only [outcome, result]
    cases found : entries.findIdx? (Entry.answersTo target) with
    | some index =>
      obtain ⟨inside, -⟩ := List.findIdx?_eq_some_iff_getElem.mp found
      simp [Outcome.replay?, inside]
    | none => rfl
  | reset => simp [outcome, result, Outcome.replay?]

theorem Edit.outcome_ne_dropped (edit : Edit) (entries : List Entry) : edit.outcome entries ≠ .dropped := by
  cases edit with
  | place row =>
    simp only [outcome]
    cases Entry.placement row entries <;> simp [Placement.outcome]
  | remove target =>
    simp only [outcome]
    split <;> simp
  | reset => simp [outcome]

/-- Nothing can be known of rows once an index was out of bounds. -/
def boundedHost (sanitizer : Option (String → String)) : Host (Option (List Entry)) where
  labels entries? := (entries?.getD []).map Entry.label
  keyOf row _ := (row.displayKey, [])
  clean row entries? := (row.clean sanitizer, entries?, [])
  insert index row entries? :=
    (entries?.bind fun entries => if index ≤ entries.length then some (entries.insertIdx index ⟨row, none⟩) else none, [])
  replace index row entries? :=
    (entries?.bind fun entries => if index < entries.length then some (entries.set index ⟨row, none⟩) else none, [])
  remove index entries? :=
    (entries?.bind fun entries => if index < entries.length then some (entries.eraseIdx index) else none, [])
  clear entries? := entries?.map fun _ => []

def Intact (entries? : Option (List Entry)) (entries : List Entry) : Prop := entries? = some entries

theorem boundedHost_agree (sanitizer : Option (String → String)) :
    Host.Agree (fun _ => True) Intact (boundedHost sanitizer) (memoryHost sanitizer) where
  labels start := by
    subst start
    rfl
  keyOf _ _ := rfl
  insert start _ inside := by
    subst start
    rw [memoryHost_labels_length] at inside
    refine ⟨?_, rfl⟩
    simp only [boundedHost, Option.bind_some, inside, ite_true]
    rfl
  replace start _ inside := by
    subst start
    rw [memoryHost_labels_length] at inside
    refine ⟨?_, rfl⟩
    simp only [boundedHost, Option.bind_some, inside, ite_true]
    rfl
  remove start inside := by
    subst start
    rw [memoryHost_labels_length] at inside
    refine ⟨?_, rfl⟩
    simp only [boundedHost, Option.bind_some, inside, ite_true]
    rfl
  clear start := by
    subst start
    rfl

namespace Operation

variable (sanitizer : Option (String → String)) (synchronizer : Synchronizer) (entries : List Entry)

/-- What an operation says of the rows is what it did to them. -/
structure Tells (operation : Operation) (step : Step (List Entry)) : Prop where
  silent : step.outcome = none ↔ operation.isQuiet synchronizer.settings
  kept : step.outcome = none → step.store = entries
  replayed : ∀ outcome ∈ step.outcome, outcome.replay? (operation.row? sanitizer synchronizer) entries = some step.store
  dropped : step.outcome = some .dropped ↔ operation.isQuiet synchronizer.settings = false ∧
    (synchronizer.phase = .closed ∨ operation.edit? sanitizer synchronizer = none)
  unmoved : step.outcome = some .dropped → step.synchronizer = synchronizer
  columns : step.synchronizer.columns = synchronizer.columns
  settings : step.synchronizer.settings = synchronizer.settings

theorem tells (operation : Operation) :
    operation.Tells sanitizer synchronizer entries (operation.perform (memoryHost sanitizer) synchronizer entries) := by
  obtain ⟨phase, entered, -⟩ := operation.perform_enters synchronizer (memoryHost sanitizer) entries
  have left := operation.leaves sanitizer synchronizer entries
  generalize operation.perform (memoryHost sanitizer) synchronizer entries = step at left entered
  have columns : step.synchronizer.columns = synchronizer.columns := by rw [entered]; rfl
  have settings : step.synchronizer.settings = synchronizer.settings := by rw [entered]; rfl
  cases left with
  | quiet silent =>
    exact ⟨by simp [Step.quiet, silent], fun _ => rfl, by simp [Step.quiet], by simp [Step.quiet, silent],
      by simp [Step.quiet], columns, settings⟩
  | dropped told reason records =>
    refine ⟨by simp [told], by simp, ?_, by simp [told, reason], fun _ => rfl, columns, settings⟩
    intro outcome member
    cases member
    rfl
  | edited told active edit asked records =>
    have edited := edit.outcome_ne_dropped entries
    refine ⟨by simp [told], by simp, ?_, by simp [edited, active, asked], by simp [edited], columns, settings⟩
    intro outcome member
    cases member
    have row : operation.row? sanitizer synchronizer = edit.row? := by rw [row?, asked, Option.bind_some]
    rw [row]
    exact edit.replay?_outcome entries

theorem replayAll?_run (operations : List Operation) :
    Outcome.replayAll?
        ((operations.map (row? sanitizer synchronizer)).zip
          ((run (memoryHost sanitizer) synchronizer entries operations).map (·.outcome))) entries =
      some (rowsAfter (memoryHost sanitizer) synchronizer entries operations) := by
  induction operations generalizing synchronizer entries with
  | nil => rfl
  | cons operation rest ih =>
    have told := operation.tells sanitizer synchronizer entries
    obtain ⟨phase, entered, -⟩ := operation.perform_enters synchronizer (memoryHost sanitizer) entries
    simp only [rowsAfter_cons, run, List.map_cons, List.zip_cons_cons]
    generalize operation.perform (memoryHost sanitizer) synchronizer entries = step at told entered ⊢
    have later := ih step.synchronizer step.store
    have sameRows : row? sanitizer step.synchronizer = row? sanitizer synchronizer := by rw [entered]; rfl
    rw [sameRows] at later
    cases said : step.outcome with
    | none => rw [Outcome.replayAll?, ← told.kept said, later]
    | some outcome => rw [Outcome.replayAll?, told.replayed outcome said, Option.bind_some, later]

/-- Every operation tells what it did to the rows, whatever they are and in whatever
phase. No run goes out of bounds, and its outcomes, replayed on a copy of the rows, give
the rows at its end. -/
theorem outcomes_replay (operations : List Operation) :
    (∀ operation : Operation, operation.Tells sanitizer synchronizer entries
      (operation.perform (memoryHost sanitizer) synchronizer entries)) ∧
    List.Forall₂
      (fun bounded plain => bounded.outcome = plain.outcome ∧ bounded.synchronizer = plain.synchronizer ∧
        bounded.store = some plain.store)
      (run (boundedHost sanitizer) synchronizer (some entries) operations)
      (run (memoryHost sanitizer) synchronizer entries operations) ∧
    Outcome.replayAll?
        ((operations.map (row? sanitizer synchronizer)).zip
          ((run (memoryHost sanitizer) synchronizer entries operations).map (·.outcome))) entries =
      some (rowsAfter (memoryHost sanitizer) synchronizer entries operations) := by
  refine ⟨tells sanitizer synchronizer entries, ?_, replayAll?_run sanitizer synchronizer entries operations⟩
  have start : Intact (some entries) entries := rfl
  have alike := (boundedHost_agree sanitizer).run (fun _ _ => rfl) (fun _ _ => rfl) synchronizer operations
    (fun _ _ => trivial) start
  exact alike.imp fun _ _ step => ⟨step.outcome, step.synchronizer, step.store⟩

end Operation

end StreamTable
