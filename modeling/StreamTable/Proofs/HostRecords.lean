import StreamTable.Proofs.HostAgreement

/-! What the operations of a synchronizer record. Some records say that an event was refused
while a row was cleaned; the synchronizer writes none of these itself, so whatever holds
across the records of its host holds across those of every operation. -/

namespace StreamTable

namespace Record

def isRefusal : Record → Bool
  | reentrantEvent _ | reentrantOpen => true
  | _ => false

def unrefused (records : List Record) : List Record := records.filter fun record => !record.isRefusal

@[simp] theorem unrefused_append (earlier later : List Record) :
    unrefused (earlier ++ later) = unrefused earlier ++ unrefused later := List.filter_append earlier later

theorem unrefused_of_isRefusal {records : List Record} (refused : ∀ record ∈ records, record.isRefusal) :
    unrefused records = [] := by simpa [unrefused] using refused

def refusals (records : List Record) : List Record := records.filter isRefusal

@[simp] theorem refusals_append (earlier later : List Record) :
    refusals (earlier ++ later) = refusals earlier ++ refusals later := List.filter_append earlier later

theorem refusals_of_isRefusal {records : List Record} (refused : ∀ record ∈ records, record.isRefusal) :
    refusals records = records := List.filter_eq_self.mpr refused

theorem refusals_handled (kind : EventKind) (outcome : Option Outcome) :
    refusals (outcome.toList.map (.handled kind)) = [] := by cases outcome <;> rfl

end Record

def Step.unrefused {σ : Type} (step : Step σ) : Step σ := { step with records := Record.unrefused step.records }

theorem Step.Alike.unrefused {σ τ : Type} {related : σ → τ → Prop} {first : Step σ} {second : Step τ}
    (alike : Step.Alike related first second) : Step.Alike related first.unrefused second.unrefused :=
  ⟨alike.outcome, alike.synchronizer, alike.store, congrArg Record.unrefused alike.records⟩

/-- A relation between stores, and records of what was done between, that holds across
everything that a host does and across records that are not of refusals. -/
structure Host.Tells {σ : Type} (host : Host σ) (tells : σ → σ → List Record → Prop) : Prop where
  remark (store : σ) (records : List Record) (own : Record.refusals records = []) : tells store store records
  trans {first second third : σ} {earlier later : List Record} :
    tells first second earlier → tells second third later → tells first third (earlier ++ later)
  keyOf (row : Row) (store : σ) : Record.refusals (host.keyOf row store).2 = []
  clean (row : Row) (store : σ) : tells store (host.clean row store).2.1 (host.clean row store).2.2
  insert (index : Nat) (row : Row) (store : σ) :
    tells store (host.insert index row store).1 (host.insert index row store).2
  replace (index : Nat) (row : Row) (store : σ) :
    tells store (host.replace index row store).1 (host.replace index row store).2
  remove (index : Nat) (store : σ) : tells store (host.remove index store).1 (host.remove index store).2
  clear (store : σ) : tells store (host.clear store) []

namespace Host.Tells

variable {σ : Type} {host : Host σ} {tells : σ → σ → List Record → Prop}

theorem placeRow (along : host.Tells tells) (synchronizer : Synchronizer) (row : Row) (store : σ) :
    tells store (synchronizer.placeRow host row store).store (synchronizer.placeRow host row store).records := by
  simp only [Synchronizer.placeRow]
  split
  · exact along.remark store _ rfl
  · have begun (record : Record) (own : Record.refusals [record] = []) :
        tells store store ((host.keyOf row store).2 ++ [.placementBegun (redact (host.keyOf row store).1)] ++ [record]) := by
      refine along.remark store _ ?_
      simp only [Record.refusals_append, along.keyOf row store, own]
      rfl
    split
    next index _ => simpa using along.trans (begun (.replacing index) rfl) (along.replace index row store)
    next index _ => simpa using along.trans (begun (.insertingBefore index) rfl) (along.insert index row store)
    next => simpa using along.trans (begun (.appending _) rfl) (along.insert _ row store)

theorem removeNamed (along : host.Tells tells) (synchronizer : Synchronizer) (target : String) (store : σ) :
    tells store (synchronizer.removeNamed host target store).store (synchronizer.removeNamed host target store).records := by
  simp only [Synchronizer.removeNamed]
  split
  · exact along.remark store _ rfl
  · split
    next index _ => exact along.trans (along.remark store [.removing index] rfl) (along.remove index store)
    next => exact along.remark store _ rfl

theorem apply (along : host.Tells tells) (synchronizer : Synchronizer) (kind : EventKind) (payload : String) (store : σ) :
    tells store (synchronizer.apply host kind payload store).store (synchronizer.apply host kind payload store).records := by
  cases kind with
  | upsert =>
    simp only [Synchronizer.apply, Synchronizer.applyUpsert]
    split
    · exact along.remark store _ rfl
    · split
      · exact along.remark store _ rfl
      next values _ =>
        have cleaned := along.clean (.verbatim values synchronizer.columns synchronizer.settings.htmlColumns) store
        exact along.trans (along.trans (along.remark store [.upsertBegun] rfl) cleaned)
          (along.placeRow synchronizer _ _)
  | remove =>
    simp only [Synchronizer.apply, Synchronizer.applyRemove]
    split
    · exact along.remark store _ rfl
    · split
      next target _ =>
        exact along.trans (along.remark store [.removeBegun] rfl) (along.removeNamed synchronizer target store)
      next => exact along.remark store _ rfl
  | reset =>
    simp only [Synchronizer.apply, Synchronizer.applyReset]
    split
    · exact along.remark store _ rfl
    · exact along.trans (along.clear store) (along.remark _ _ rfl)

theorem perform (along : host.Tells tells) (operation : Operation) (synchronizer : Synchronizer) (store : σ) :
    tells store (operation.perform host synchronizer store).store (operation.perform host synchronizer store).records := by
  rcases operation.cases_event synchronizer with quiet | ⟨kind, payload, event⟩ | ⟨target, rfl⟩ | ⟨row, rfl⟩
  · rw [Operation.perform_of_isQuiet host store quiet]
    exact along.remark store _ rfl
  · rw [Operation.perform_of_event host store event]
    exact along.apply synchronizer kind payload store
  · exact along.removeNamed synchronizer target store
  · exact along.placeRow synchronizer row store

end Host.Tells

end StreamTable
