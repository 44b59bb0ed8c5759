import StreamTable.Sync.Basic

/-! All that can be asked of a synchronizer, as values, so that a run is a list
of operations. -/

namespace StreamTable

inductive Operation where
  | connecting
  | opened
  | close
  | upsert (payload : String)
  | remove (payload : String)
  | reset
  | apply (kind : EventKind) (payload : String)
  /-- An event of the stream, under its name. -/
  | named (name payload : String)
  | removeNamed (target : String)
  | placeRow (row : Row)
  deriving DecidableEq, Repr

/-- What an operation left behind, with an outcome if it is of a kind that has one. -/
structure Step (σ : Type) where
  outcome : Option Outcome
  synchronizer : Synchronizer
  store : σ
  records : List Record

variable {σ : Type}

def Step.quiet (synchronizer : Synchronizer) (store : σ) : Step σ := ⟨none, synchronizer, store, []⟩

def Effect.toStep (effect : Effect σ) : Step σ :=
  ⟨some effect.outcome, effect.synchronizer, effect.store, effect.records⟩

namespace Operation

def perform (host : Host σ) (synchronizer : Synchronizer) (store : σ) : Operation → Step σ
  | connecting => .quiet synchronizer.connecting store
  | opened => .quiet synchronizer.opened store
  | close => .quiet synchronizer.close store
  | upsert payload => (synchronizer.applyUpsert host payload store).toStep
  | remove payload => (synchronizer.applyRemove host payload store).toStep
  | reset => (synchronizer.applyReset host store).toStep
  | apply kind payload => (synchronizer.apply host kind payload store).toStep
  | named name payload =>
    match synchronizer.settings.eventNames.kind? name with
    | some kind => (synchronizer.apply host kind payload store).toStep
    | none => .quiet synchronizer store
  | removeNamed target => (synchronizer.removeNamed host target store).toStep
  | placeRow row => (synchronizer.placeRow host row store).toStep

def run (host : Host σ) (synchronizer : Synchronizer) (store : σ) : List Operation → List (Step σ)
  | [] => []
  | operation :: rest =>
    let step := operation.perform host synchronizer store
    step :: run host step.synchronizer step.store rest

end Operation

end StreamTable
