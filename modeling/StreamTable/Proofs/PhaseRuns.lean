import StreamTable.Proofs.OutcomeReplay
import StreamTable.Proofs.RepeatedPlacement

/-! The phases of a connection over whole runs. A connection only ever goes on: each
operation leaves it at the stage that it was at or takes it further. What a phase says
of the rows, that they are still the first ones or that there are none, is kept along. -/

namespace StreamTable

/-- How far a connection has come. No operation takes it back. -/
def Phase.stage : Phase → Nat
  | disconnected => 0
  | connecting => 1
  | live | empty => 2
  | closed => 3

theorem Phase.stage_eq_zero_iff {phase : Phase} : phase.stage = 0 ↔ phase = .disconnected := by
  cases phase <;> simp [stage]

theorem Phase.stage_eq_one_iff {phase : Phase} : phase.stage = 1 ↔ phase = .connecting := by
  cases phase <;> simp [stage]

theorem Phase.stage_le_two {phase : Phase} (active : phase ≠ .closed) : phase.stage ≤ 2 := by
  cases phase with
  | closed => exact absurd rfl active
  | disconnected | connecting | live | empty => decide

/-- What a phase says of the rows, given those of the beginning. -/
structure Phase.Describes (initial : List Entry) (phase : Phase) (entries : List Entry) : Prop where
  untouched : phase = .disconnected ∨ phase = .connecting → entries = initial
  cleared : phase = .empty → entries = []

/-- An edit that puts a row or names one to remove, and what it says of the rows: where
the row was put, or whether there was one of that name. -/
inductive Edit.Revives : Edit → Outcome → Prop where
  | placed {row : Row} {outcome : Outcome} (index : Nat)
      (told : outcome = .inserted index ∨ outcome = .appended index ∨ outcome = .replaced index) :
      Revives (.place row) outcome
  | removed {target : String} (index : Nat) : Revives (.remove target) (.removed index)
  | missed {target : String} : Revives (.remove target) .notFound

theorem Edit.revives {edit : Edit} (alive : edit.phase = .live) (entries : List Entry) :
    edit.Revives (edit.outcome entries) := by
  cases edit with
  | place row => exact .placed _ ((Entry.placement row entries).outcome_eq entries.length)
  | remove target =>
    simp only [outcome]
    split
    next index _ => exact .removed index
    next => exact .missed
  | reset => cases alive

theorem Edit.describes (edit : Edit) (initial entries : List Entry) :
    edit.phase.Describes initial (edit.result entries) := by
  cases edit with
  | place row | remove target => exact ⟨by simp [phase], by simp [phase]⟩
  | reset => exact ⟨by simp [phase], fun _ => rfl⟩

namespace Operation

section Step

variable (sanitizer : Option (String → String)) (synchronizer : Synchronizer) (entries : List Entry)

theorem moved_cases {operation : Operation} (quiet : operation.isQuiet synchronizer.settings) :
    operation.moved synchronizer = synchronizer ∨
      (operation = .connecting ∧ synchronizer.phase = .disconnected ∧
        operation.moved synchronizer = synchronizer.enter .connecting) ∨
      (operation = .opened ∧ synchronizer.phase ≠ .closed ∧ operation.moved synchronizer = synchronizer.enter .live) ∨
      operation = .close ∧ operation.moved synchronizer = synchronizer.enter .closed := by
  cases operation with
  | connecting =>
    simp only [moved, Synchronizer.connecting]
    split
    next before => exact Or.inr (Or.inl ⟨trivial, before, rfl⟩)
    next => exact Or.inl rfl
  | opened =>
    simp only [moved, Synchronizer.opened]
    split
    next => exact Or.inl rfl
    next active => exact Or.inr (Or.inr (Or.inl ⟨trivial, active, rfl⟩))
  | close => exact Or.inr (Or.inr (Or.inr ⟨rfl, rfl⟩))
  | named _ _ => exact Or.inl rfl
  | upsert _ | remove _ | reset | apply _ _ | removeNamed _ | placeRow _ => cases quiet

theorem enter_phase_of_eq {phase : Phase} (same : synchronizer.phase = phase) : synchronizer.enter phase = synchronizer := by
  subst same
  rfl

/-- How an operation takes a synchronizer on. -/
structure Advances (operation : Operation) (step : Step (List Entry)) : Prop where
  stage : synchronizer.phase.stage ≤ step.synchronizer.phase.stage
  absorbed : synchronizer.phase = .closed → step.synchronizer = synchronizer ∧ step.store = entries ∧
    step.outcome = if operation.isQuiet synchronizer.settings then none else some .dropped
  connects : step.synchronizer.phase = .connecting → synchronizer.phase ≠ .connecting →
    operation = .connecting ∧ synchronizer.phase = .disconnected
  revived : step.synchronizer.phase = .live → synchronizer.phase ≠ .live → operation = .opened ∨
    ∃ edit outcome, operation.edit? sanitizer synchronizer = some edit ∧ step.outcome = some outcome ∧
      edit.Revives outcome
  dropped : step.outcome = some .dropped → step.synchronizer = synchronizer
  describes : ∀ initial, synchronizer.phase.Describes initial entries →
    step.synchronizer.phase.Describes initial step.store

theorem advances_quiet {operation : Operation} (quiet : operation.isQuiet synchronizer.settings) :
    operation.Advances sanitizer synchronizer entries (.quiet (operation.moved synchronizer) entries) := by
  rcases operation.moved_cases synchronizer quiet with same | ⟨rfl, before, moved⟩ | ⟨rfl, active, moved⟩ | ⟨rfl, moved⟩
  · rw [same]
    exact ⟨Nat.le_refl _, fun _ => ⟨rfl, rfl, by simp [Step.quiet, quiet]⟩, fun reached elsewhere => absurd reached elsewhere,
      fun reached elsewhere => absurd reached elsewhere, fun _ => rfl, fun _ describes => describes⟩
  · rw [moved]
    refine ⟨?_, fun closed => ?_, fun _ _ => ⟨rfl, before⟩, by simp [Step.quiet, Synchronizer.enter], by simp [Step.quiet], ?_⟩
    · simp [before, Phase.stage]
    · cases before.symm.trans closed
    · intro initial describes
      exact ⟨fun _ => describes.untouched (Or.inl before), by simp [Step.quiet, Synchronizer.enter]⟩
  · rw [moved]
    refine ⟨Phase.stage_le_two active, fun closed => absurd closed active, by simp [Step.quiet, Synchronizer.enter],
      fun _ _ => Or.inl rfl, by simp [Step.quiet], fun initial _ => ?_⟩
    exact ⟨by simp [Step.quiet, Synchronizer.enter], by simp [Step.quiet, Synchronizer.enter]⟩
  · rw [moved]
    refine ⟨?_, fun closed => ⟨enter_phase_of_eq synchronizer closed, rfl, rfl⟩, by simp [Step.quiet, Synchronizer.enter],
      by simp [Step.quiet, Synchronizer.enter], by simp [Step.quiet], fun initial _ => ?_⟩
    · simp only [Step.quiet, Synchronizer.enter]
      cases synchronizer.phase <;> simp [Phase.stage]
    · exact ⟨by simp [Step.quiet, Synchronizer.enter], by simp [Step.quiet, Synchronizer.enter]⟩

theorem advances (operation : Operation) :
    operation.Advances sanitizer synchronizer entries (operation.perform (memoryHost sanitizer) synchronizer entries) := by
  have left := operation.leaves sanitizer synchronizer entries
  generalize operation.perform (memoryHost sanitizer) synchronizer entries = step at left
  cases left with
  | quiet silent => exact advances_quiet sanitizer synchronizer entries silent
  | dropped told reason records =>
    exact ⟨Nat.le_refl _, fun _ => ⟨rfl, rfl, by simp [told]⟩, fun reached elsewhere => absurd reached elsewhere,
      fun reached elsewhere => absurd reached elsewhere, fun _ => rfl, fun _ describes => describes⟩
  | edited told active edit asked records =>
    refine ⟨?_, fun closed => absurd closed active, fun reached _ => ?_, fun reached _ => ?_, fun dropped => ?_,
      fun initial _ => edit.describes initial entries⟩
    · have stage : edit.phase.stage = 2 := by cases edit <;> rfl
      exact stage ▸ Phase.stage_le_two active
    · have other : edit.phase ≠ .connecting := by cases edit <;> simp [Edit.phase]
      exact absurd reached other
    · exact Or.inr ⟨edit, _, asked, rfl, edit.revives reached entries⟩
    · exact absurd (Option.some.inj dropped) (edit.outcome_ne_dropped entries)

end Step

section Runs

variable {σ : Type} (host : Host σ) (synchronizer : Synchronizer) (store : σ)

def synchronizerAfter (operations : List Operation) : Synchronizer :=
  ((run host synchronizer store operations).getLast?.map (·.synchronizer)).getD synchronizer

theorem synchronizerAfter_cons (operation : Operation) (rest : List Operation) :
    synchronizerAfter host synchronizer store (operation :: rest) =
      synchronizerAfter host (operation.perform host synchronizer store).synchronizer
        (operation.perform host synchronizer store).store rest := by
  simp only [synchronizerAfter, run, List.getLast?_cons]
  cases (run host _ _ rest).getLast? <;> rfl

theorem after_append (earlier later : List Operation) :
    synchronizerAfter host synchronizer store (earlier ++ later) =
        synchronizerAfter host (synchronizerAfter host synchronizer store earlier)
          (rowsAfter host synchronizer store earlier) later ∧
      rowsAfter host synchronizer store (earlier ++ later) =
        rowsAfter host (synchronizerAfter host synchronizer store earlier)
          (rowsAfter host synchronizer store earlier) later := by
  induction earlier generalizing synchronizer store with
  | nil => exact ⟨rfl, rfl⟩
  | cons operation rest ih =>
    simp only [List.cons_append, synchronizerAfter_cons, rowsAfter_cons]
    exact ih _ _

/-- The columns and the settings are those of the beginning, and a run is closed once it
has a closing in it. -/
theorem synchronizerAfter_enters (operations : List Operation) :
    ∃ phase, synchronizerAfter host synchronizer store operations = synchronizer.enter phase ∧
      (phase = .closed ↔ synchronizer.phase = .closed ∨ .close ∈ operations) := by
  induction operations generalizing synchronizer store with
  | nil => exact ⟨synchronizer.phase, rfl, by simp⟩
  | cons operation rest ih =>
    obtain ⟨first, entered, closed⟩ := operation.perform_enters synchronizer host store
    obtain ⟨last, later, ended⟩ := ih (synchronizer.enter first) (operation.perform host synchronizer store).store
    refine ⟨last, ?_, ?_⟩
    · rw [synchronizerAfter_cons, entered, later]
      rfl
    · simp only [ended, Synchronizer.enter, closed, List.mem_cons, or_assoc, eq_comm]

end Runs

section Memory

variable (sanitizer : Option (String → String)) (synchronizer : Synchronizer) (entries : List Entry)

theorem stage_le_after (operations : List Operation) :
    synchronizer.phase.stage ≤ (synchronizerAfter (memoryHost sanitizer) synchronizer entries operations).phase.stage := by
  induction operations generalizing synchronizer entries with
  | nil => exact Nat.le_refl _
  | cons operation rest ih =>
    rw [synchronizerAfter_cons]
    exact Nat.le_trans (operation.advances sanitizer synchronizer entries).stage (ih _ _)

theorem describes_after (initial : List Entry) (operations : List Operation)
    (describes : synchronizer.phase.Describes initial entries) :
    (synchronizerAfter (memoryHost sanitizer) synchronizer entries operations).phase.Describes initial
      (rowsAfter (memoryHost sanitizer) synchronizer entries operations) := by
  induction operations generalizing synchronizer entries with
  | nil => exact describes
  | cons operation rest ih =>
    rw [synchronizerAfter_cons, rowsAfter_cons]
    exact ih _ _ ((operation.advances sanitizer synchronizer entries).describes initial describes)

theorem absorbed_after (operations : List Operation) (closed : synchronizer.phase = .closed) :
    synchronizerAfter (memoryHost sanitizer) synchronizer entries operations = synchronizer ∧
      rowsAfter (memoryHost sanitizer) synchronizer entries operations = entries := by
  induction operations with
  | nil => exact ⟨rfl, rfl⟩
  | cons operation rest ih =>
    obtain ⟨same, kept, -⟩ := (operation.advances sanitizer synchronizer entries).absorbed closed
    rw [synchronizerAfter_cons, rowsAfter_cons, same, kept]
    exact ih

end Memory

variable (sanitizer : Option (String → String)) (fresh : Synchronizer) (initial : List Entry)

def reached (operations : List Operation) : Synchronizer :=
  synchronizerAfter (memoryHost sanitizer) fresh initial operations

def entriesAfter (operations : List Operation) : List Entry :=
  rowsAfter (memoryHost sanitizer) fresh initial operations

def stepAfter (operations : List Operation) (operation : Operation) : Step (List Entry) :=
  operation.perform (memoryHost sanitizer) (reached sanitizer fresh initial operations)
    (entriesAfter sanitizer fresh initial operations)

theorem reached_append (earlier later : List Operation) :
    reached sanitizer fresh initial (earlier ++ later) =
      reached sanitizer (reached sanitizer fresh initial earlier) (entriesAfter sanitizer fresh initial earlier) later :=
  (after_append (memoryHost sanitizer) fresh initial earlier later).1

theorem entriesAfter_append (earlier later : List Operation) :
    entriesAfter sanitizer fresh initial (earlier ++ later) =
      entriesAfter sanitizer (reached sanitizer fresh initial earlier) (entriesAfter sanitizer fresh initial earlier) later :=
  (after_append (memoryHost sanitizer) fresh initial earlier later).2

theorem stage_le_reached (earlier later : List Operation) :
    (reached sanitizer fresh initial earlier).phase.stage ≤
      (reached sanitizer fresh initial (earlier ++ later)).phase.stage := by
  rw [reached_append]
  exact stage_le_after sanitizer _ _ later

/-- What the phases tell at any point of a run: of what came before, of the step that
comes next and of all that may come later. -/
structure Orderly (operations : List Operation) : Prop where
  closed : (reached sanitizer fresh initial operations).phase = .closed ↔ .close ∈ operations
  absorbed : .close ∈ operations → ∀ later,
    reached sanitizer fresh initial (operations ++ later) = reached sanitizer fresh initial operations ∧
      entriesAfter sanitizer fresh initial (operations ++ later) = entriesAfter sanitizer fresh initial operations
  refused : .close ∈ operations → ∀ operation, (stepAfter sanitizer fresh initial operations operation).outcome =
    if operation.isQuiet fresh.settings then none else some .dropped
  disconnected : (reached sanitizer fresh initial operations).phase ≠ .disconnected →
    ∀ later, (reached sanitizer fresh initial (operations ++ later)).phase ≠ .disconnected
  connects : ∀ operation, (stepAfter sanitizer fresh initial operations operation).synchronizer.phase = .connecting →
    (reached sanitizer fresh initial operations).phase ≠ .connecting →
      operation = .connecting ∧ (reached sanitizer fresh initial operations).phase = .disconnected
  connected : (reached sanitizer fresh initial operations).phase = .connecting → ∀ more,
    (reached sanitizer fresh initial (operations ++ more)).phase ≠ .connecting →
      ∀ later, (reached sanitizer fresh initial (operations ++ more ++ later)).phase ≠ .connecting
  describes : (reached sanitizer fresh initial operations).phase.Describes initial
    (entriesAfter sanitizer fresh initial operations)
  revived : ∀ operation, (stepAfter sanitizer fresh initial operations operation).synchronizer.phase = .live →
    (reached sanitizer fresh initial operations).phase ≠ .live → operation = .opened ∨
      ∃ edit outcome, operation.edit? sanitizer fresh = some edit ∧
        (stepAfter sanitizer fresh initial operations operation).outcome = some outcome ∧ edit.Revives outcome
  dropped : ∀ operation, (stepAfter sanitizer fresh initial operations operation).outcome = some .dropped →
    (stepAfter sanitizer fresh initial operations operation).synchronizer = reached sanitizer fresh initial operations

/-- Every run of a synchronizer over rows in memory is orderly throughout. -/
theorem run_orderly (columns : Nat) (settings : Settings) (operations : List Operation) :
    Orderly sanitizer ⟨columns, settings, .disconnected⟩ initial operations := by
  generalize begun : (⟨columns, settings, .disconnected⟩ : Synchronizer) = fresh
  have first : fresh.phase = .disconnected := begun ▸ rfl
  obtain ⟨phase, entered, closed⟩ := synchronizerAfter_enters (memoryHost sanitizer) fresh initial operations
  have shut : (reached sanitizer fresh initial operations).phase = .closed ↔ .close ∈ operations := by
    rw [reached, entered]
    simpa [first, Synchronizer.enter] using closed
  have settled : (reached sanitizer fresh initial operations).settings = fresh.settings := by
    rw [reached, entered]
    rfl
  have edits (operation : Operation) : operation.edit? sanitizer (reached sanitizer fresh initial operations) =
      operation.edit? sanitizer fresh := by
    rw [reached, entered]
    rfl
  have advances (operation : Operation) :=
    operation.advances sanitizer (reached sanitizer fresh initial operations) (entriesAfter sanitizer fresh initial operations)
  have onward := stage_le_reached sanitizer fresh initial
  refine ⟨shut, fun ended later => ?_, fun ended operation => ?_, fun left later again => ?_,
    fun operation => (advances operation).connects, fun connecting more left later again => ?_, ?_,
    fun operation live elsewhere => ?_, fun operation => (advances operation).dropped⟩
  · rw [reached_append, entriesAfter_append]
    exact absorbed_after sanitizer _ _ later (shut.mpr ended)
  · rw [← settled]
    exact ((advances operation).absorbed (shut.mpr ended)).2.2
  · have stage := onward operations later
    rw [again] at stage
    exact left (Phase.stage_eq_zero_iff.mp (Nat.le_zero.mp stage))
  · have before := onward operations more
    have after := onward (operations ++ more) later
    rw [connecting] at before
    rw [again] at after
    exact left (Phase.stage_eq_one_iff.mp (Nat.le_antisymm after before))
  · exact describes_after sanitizer fresh initial initial operations ⟨fun _ => rfl, by simp [first]⟩
  · rw [← edits]
    exact (advances operation).revived live elsewhere

end Operation

end StreamTable
