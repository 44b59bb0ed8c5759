import StreamTable.Proofs.Edits
import StreamTable.Proofs.RepeatedPlacement

/-! What the operations of a synchronizer ask of its host, whoever that is: an active one
puts a row at its place, takes out the row that a removal names or clears the table.
Whatever holds across each thing that a host does holds across every operation. -/

namespace StreamTable

variable {σ : Type}

def Host.put (host : Host σ) (row : Row) (count : Nat) (store : σ) : Placement → σ × List Record
  | .replace index => host.replace index row store
  | .insert index => host.insert index row store
  | .append => host.insert count row store

def Host.placement (host : Host σ) (row : Row) (store : σ) : Placement :=
  Placement.among (host.keyOf row store).1 ((host.labels store).map (·.shown))

theorem Host.placement_fits (host : Host σ) (row : Row) (store : σ) :
    (host.placement row store).Fits (host.labels store).length := by
  have fits := Placement.among_fits (host.keyOf row store).1 ((host.labels store).map (·.shown))
  rwa [List.length_map] at fits

namespace Synchronizer

variable {synchronizer : Synchronizer} (host : Host σ) (store : σ)

theorem placeRow_active (active : synchronizer.phase ≠ .closed) (row : Row) :
    ∃ records, synchronizer.placeRow host row store =
      ⟨(host.placement row store).outcome (host.labels store).length, synchronizer.enter .live,
        (host.put row (host.labels store).length store (host.placement row store)).1, records⟩ := by
  simp only [placeRow, active, ite_false, Host.placement, List.length_map]
  cases Placement.among (host.keyOf row store).1 ((host.labels store).map (·.shown)) with
  | replace index | insert index | append => exact ⟨_, rfl⟩

def takes (synchronizer : Synchronizer) (payload : String) : Bool :=
  synchronizer.phase ≠ .closed && (upsertValues payload).isOk

theorem applyUpsert_untaken {payload : String} (untaken : synchronizer.takes payload = false) :
    (synchronizer.applyUpsert host payload store).store = store := by
  simp only [applyUpsert]
  split
  · rfl
  next active =>
    cases decoded : upsertValues payload with
    | error error => rfl
    | ok values => simp [takes, active, decoded, Except.isOk, Except.toBool] at untaken

theorem applyUpsert_taken {payload : String} (taken : synchronizer.takes payload) :
    ∃ values, upsertValues payload = .ok values ∧
      let cleaned := host.clean (.verbatim values synchronizer.columns synchronizer.settings.htmlColumns) store
      (synchronizer.applyUpsert host payload store).store =
        (host.put cleaned.1 (host.labels cleaned.2.1).length cleaned.2.1 (host.placement cleaned.1 cleaned.2.1)).1 := by
  simp only [takes, Bool.and_eq_true, decide_eq_true_eq] at taken
  obtain ⟨active, decodes⟩ := taken
  cases decoded : upsertValues payload with
  | error error => simp [decoded, Except.isOk, Except.toBool] at decodes
  | ok values =>
    refine ⟨values, rfl, ?_⟩
    obtain ⟨records, placed⟩ := placeRow_active host
      (host.clean (.verbatim values synchronizer.columns synchronizer.settings.htmlColumns) store).2.1 active
      (host.clean (.verbatim values synchronizer.columns synchronizer.settings.htmlColumns) store).1
    simp only [applyUpsert, active, ite_false, decoded, placed]

theorem removeNamed_store (target : String) :
    (synchronizer.removeNamed host target store).store = store ∨
      ∃ index, (synchronizer.removeNamed host target store).store = (host.remove index store).1 := by
  simp only [removeNamed]
  split
  · exact Or.inl rfl
  · split
    next index _ => exact Or.inr ⟨index, rfl⟩
    next => exact Or.inl rfl

theorem applyRemove_store (payload : String) :
    (synchronizer.applyRemove host payload store).store = store ∨
      ∃ index, (synchronizer.applyRemove host payload store).store = (host.remove index store).1 := by
  simp only [applyRemove]
  split
  · exact Or.inl rfl
  · split
    next target _ => exact synchronizer.removeNamed_store host store target
    next => exact Or.inl rfl

theorem applyReset_store :
    (synchronizer.applyReset host store).store = store ∨
      (synchronizer.applyReset host store).store = host.clear store := by
  simp only [applyReset]
  split
  · exact Or.inl rfl
  · exact Or.inr rfl

end Synchronizer

/-- A relation that holds across everything that a host does. -/
structure Host.Moves (host : Host σ) (moves : σ → σ → Prop) : Prop where
  refl (store : σ) : moves store store
  trans {first second third : σ} : moves first second → moves second third → moves first third
  clean (row : Row) (store : σ) : moves store (host.clean row store).2.1
  insert (index : Nat) (row : Row) (store : σ) : moves store (host.insert index row store).1
  replace (index : Nat) (row : Row) (store : σ) : moves store (host.replace index row store).1
  remove (index : Nat) (store : σ) : moves store (host.remove index store).1
  clear (store : σ) : moves store (host.clear store)

namespace Host.Moves

variable {host : Host σ} {moves : σ → σ → Prop}

theorem put (along : host.Moves moves) (row : Row) (count : Nat) (store : σ) (placement : Placement) :
    moves store (host.put row count store placement).1 := by
  cases placement with
  | replace index => exact along.replace index row store
  | insert index => exact along.insert index row store
  | append => exact along.insert count row store

private theorem placeRow (along : host.Moves moves) (synchronizer : Synchronizer) (row : Row) (store : σ) :
    moves store (synchronizer.placeRow host row store).store := by
  by_cases closed : synchronizer.phase = .closed
  · simp only [Synchronizer.placeRow, closed, ite_true]
    exact along.refl store
  · obtain ⟨records, placed⟩ := Synchronizer.placeRow_active host store closed row
    rw [placed]
    exact along.put row _ store _

private theorem removeNamed (along : host.Moves moves) (synchronizer : Synchronizer) (target : String) (store : σ) :
    moves store (synchronizer.removeNamed host target store).store := by
  rcases synchronizer.removeNamed_store host store target with same | ⟨index, removed⟩
  · rw [same]
    exact along.refl store
  · rw [removed]
    exact along.remove index store

private theorem apply (along : host.Moves moves) (synchronizer : Synchronizer) (kind : EventKind) (payload : String)
    (store : σ) : moves store (synchronizer.apply host kind payload store).store := by
  cases kind with
  | upsert =>
    cases taken : synchronizer.takes payload with
    | false =>
      simp only [Synchronizer.apply, synchronizer.applyUpsert_untaken host store taken]
      exact along.refl store
    | true =>
      obtain ⟨values, -, placed⟩ := Synchronizer.applyUpsert_taken host store taken
      simp only [Synchronizer.apply, placed]
      exact along.trans (along.clean _ store) (along.put _ _ _ _)
  | remove =>
    simp only [Synchronizer.apply]
    rcases synchronizer.applyRemove_store host store payload with same | ⟨index, removed⟩
    · rw [same]
      exact along.refl store
    · rw [removed]
      exact along.remove index store
  | reset =>
    simp only [Synchronizer.apply]
    rcases synchronizer.applyReset_store host store with same | cleared
    · rw [same]
      exact along.refl store
    · rw [cleared]
      exact along.clear store

theorem perform (along : host.Moves moves) (operation : Operation) (synchronizer : Synchronizer) (store : σ) :
    moves store (operation.perform host synchronizer store).store := by
  rcases operation.cases_event synchronizer with quiet | ⟨kind, payload, event⟩ | ⟨target, rfl⟩ | ⟨row, rfl⟩
  · rw [Operation.perform_of_isQuiet host store quiet]
    exact along.refl store
  · rw [Operation.perform_of_event host store event]
    exact along.apply synchronizer kind payload store
  · exact along.removeNamed synchronizer target store
  · exact along.placeRow synchronizer row store

end Host.Moves

end StreamTable
