import StreamTable.Proofs.Edits
import StreamTable.Proofs.PlacementScan
import Mathlib.Data.List.Forall2

/-! A synchronizer cannot tell two hosts apart that show the same labels and take
edits alike. It only edits within bounds, since it finds the index of an edit among
the labels, so hosts need not agree on anything else. -/

namespace StreamTable

variable {σ τ : Type}

def Host.Alike (related : σ → τ → Prop) (first : σ × List Record) (second : τ × List Record) : Prop :=
  related first.1 second.1 ∧ first.2 = second.2

/-- Hosts that agree on related stores, for the rows that are known to be placed. -/
structure Host.Agree (known : Row → Prop) (related : σ → τ → Prop) (first : Host σ) (second : Host τ) : Prop where
  labels {one other} : related one other → first.labels one = second.labels other
  keyOf {one other row} : related one other → known row → first.keyOf row one = second.keyOf row other
  insert {one other row index} : related one other → known row → index ≤ (second.labels other).length →
    Alike related (first.insert index row one) (second.insert index row other)
  replace {one other row index} : related one other → known row → index < (second.labels other).length →
    Alike related (first.replace index row one) (second.replace index row other)
  remove {one other index} : related one other → index < (second.labels other).length →
    Alike related (first.remove index one) (second.remove index other)
  clear {one other} : related one other → related (first.clear one) (second.clear other)

structure Step.Alike (related : σ → τ → Prop) (first : Step σ) (second : Step τ) : Prop where
  outcome : first.outcome = second.outcome
  synchronizer : first.synchronizer = second.synchronizer
  store : related first.store second.store
  records : first.records = second.records

theorem Step.Alike.after {related : σ → τ → Prop} {first : Step σ} {second : Step τ}
    (alike : Step.Alike related first second) (records : List Record) :
    Step.Alike related (first.after records) (second.after records) :=
  ⟨alike.outcome, alike.synchronizer, alike.store, congrArg (records ++ ·) alike.records⟩

namespace Host.Agree

variable {known : Row → Prop} {related : σ → τ → Prop} {first : Host σ} {second : Host τ}

theorem placeRow (agree : Agree known related first second) (synchronizer : Synchronizer) {row : Row}
    (placed : synchronizer.phase ≠ .closed → known row) {one : σ} {other : τ} (start : related one other) :
    Step.Alike related (synchronizer.placeRow first row one).toStep (synchronizer.placeRow second row other).toStep := by
  by_cases closed : synchronizer.phase = .closed
  · simp only [Synchronizer.placeRow, closed, ite_true]
    exact ⟨rfl, rfl, start, rfl⟩
  · have placed := placed closed
    simp only [Synchronizer.placeRow, closed, ite_false, agree.labels start, agree.keyOf start placed]
    have count : ((second.labels other).map (·.shown)).length = (second.labels other).length := List.length_map _
    cases place : Placement.among (second.keyOf row other).1 ((second.labels other).map (·.shown)) with
    | replace index =>
      obtain ⟨inside, -⟩ := Placement.of_among_replace place
      obtain ⟨store, records⟩ := agree.replace start placed (count ▸ inside)
      exact ⟨rfl, rfl, store, by simp only [Effect.toStep, records]⟩
    | insert index =>
      obtain ⟨inside, -⟩ := Placement.of_among_insert place
      obtain ⟨store, records⟩ := agree.insert start placed (Nat.le_of_lt (count ▸ inside))
      exact ⟨rfl, rfl, store, by simp only [Effect.toStep, records]⟩
    | append =>
      obtain ⟨store, records⟩ := agree.insert start placed (Nat.le_of_eq count)
      exact ⟨rfl, rfl, store, by simp only [Effect.toStep, records]⟩

theorem removeNamed (agree : Agree known related first second) (synchronizer : Synchronizer) (target : String)
    {one : σ} {other : τ} (start : related one other) :
    Step.Alike related (synchronizer.removeNamed first target one).toStep
      (synchronizer.removeNamed second target other).toStep := by
  simp only [Synchronizer.removeNamed, agree.labels start]
  split
  · exact ⟨rfl, rfl, start, rfl⟩
  · split
    next index found =>
      obtain ⟨inside, -⟩ := List.findIdx?_eq_some_iff_getElem.mp found
      obtain ⟨store, records⟩ := agree.remove start inside
      exact ⟨rfl, rfl, store, by simp only [Effect.toStep, records]⟩
    next => exact ⟨rfl, rfl, start, rfl⟩

theorem applyRemove (agree : Agree known related first second) (synchronizer : Synchronizer) (payload : String)
    {one : σ} {other : τ} (start : related one other) :
    Step.Alike related (synchronizer.applyRemove first payload one).toStep
      (synchronizer.applyRemove second payload other).toStep := by
  simp only [Synchronizer.applyRemove]
  split
  · exact ⟨rfl, rfl, start, rfl⟩
  · split
    next target _ => exact (agree.removeNamed synchronizer target start).after [.removeBegun]
    next => exact ⟨rfl, rfl, start, rfl⟩

theorem applyReset (agree : Agree known related first second) (synchronizer : Synchronizer)
    {one : σ} {other : τ} (start : related one other) :
    Step.Alike related (synchronizer.applyReset first one).toStep (synchronizer.applyReset second other).toStep := by
  simp only [Synchronizer.applyReset, agree.labels start]
  split
  · exact ⟨rfl, rfl, start, rfl⟩
  · exact ⟨rfl, rfl, agree.clear start, rfl⟩

theorem edit (agree : Agree known related first second) (synchronizer : Synchronizer) (edit : Edit)
    (placed : synchronizer.phase ≠ .closed → ∀ row ∈ edit.row?, known row) {one : σ} {other : τ} (start : related one other) :
    Step.Alike related (edit.operation.perform first synchronizer one)
      (edit.operation.perform second synchronizer other) := by
  cases edit with
  | place row => exact agree.placeRow synchronizer (fun active => placed active row rfl) start
  | remove target => exact agree.removeNamed synchronizer target start
  | reset => exact agree.applyReset synchronizer start

variable {sanitizer : Option (String → String)}

theorem step (agree : Agree known related first second) (cleans : first.CleansWith sanitizer)
    (alsoCleans : second.CleansWith sanitizer) (synchronizer : Synchronizer) (operation : Operation)
    (placed : synchronizer.phase ≠ .closed → ∀ row ∈ operation.row? sanitizer synchronizer, known row)
    {one : σ} {other : τ} (start : related one other) :
    Step.Alike related (operation.perform first synchronizer one) (operation.perform second synchronizer other) := by
  cases operation.course sanitizer synchronizer with
  | quiet _ done =>
    rw [done, done]
    exact ⟨rfl, rfl, start, rfl⟩
  | dropped _ _ records done =>
    rw [done, done]
    exact ⟨rfl, rfl, start, rfl⟩
  | edited _ edit asked records done =>
    rw [done first one cleans, done second other alsoCleans]
    have brought (active : synchronizer.phase ≠ .closed) : ∀ row ∈ edit.row?, known row := by
      intro row member
      exact placed active row (Option.bind_eq_some_iff.mpr ⟨edit, asked, member⟩)
    exact (agree.edit synchronizer edit brought start).after records

theorem run (agree : Agree known related first second) (cleans : first.CleansWith sanitizer)
    (alsoCleans : second.CleansWith sanitizer) (synchronizer : Synchronizer) (operations : List Operation)
    (placed : ∀ row ∈ Operation.placedRows sanitizer synchronizer operations, known row)
    {one : σ} {other : τ} (start : related one other) :
    List.Forall₂ (Step.Alike related) (Operation.run first synchronizer one operations)
      (Operation.run second synchronizer other operations) := by
  induction operations generalizing synchronizer one other with
  | nil => exact .nil
  | cons operation rest ih =>
    have alike := agree.step cleans alsoCleans synchronizer operation
      (fun active row given => placed row (Operation.mem_placedRows_first active given)) start
    obtain ⟨phase, entered, closed⟩ := operation.perform_enters synchronizer second other
    refine .cons alike ?_
    rw [alike.synchronizer, entered]
    exact ih (synchronizer.enter phase) (fun row later => placed row (Operation.mem_placedRows_later closed later))
      alike.store

end Host.Agree

end StreamTable
