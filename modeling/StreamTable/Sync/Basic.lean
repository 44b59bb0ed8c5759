import StreamTable.Settings
import StreamTable.Sync.Host
import StreamTable.Sync.Placement

/-! The synchronizer applies the events of a stream to a table, one row at a time.
It is a state machine: every operation takes it and the rows, which its host
holds, to new ones, and says what it did. -/

namespace StreamTable

structure Synchronizer where
  columns : Nat
  settings : Settings
  phase : Phase := .disconnected
  deriving DecidableEq

/-- What an operation did, and what it left behind. -/
structure Effect (σ : Type) where
  outcome : Outcome
  synchronizer : Synchronizer
  store : σ
  records : List Record

namespace Synchronizer

variable {σ : Type}

def enter (phase : Phase) (synchronizer : Synchronizer) : Synchronizer := { synchronizer with phase }

def connecting (synchronizer : Synchronizer) : Synchronizer :=
  if synchronizer.phase = .disconnected then synchronizer.enter .connecting else synchronizer

def opened (synchronizer : Synchronizer) : Synchronizer :=
  if synchronizer.phase = .closed then synchronizer else synchronizer.enter .live

def close (synchronizer : Synchronizer) : Synchronizer := synchronizer.enter .closed

/-- Nothing was done, save for records. -/
def ignored (synchronizer : Synchronizer) (store : σ) (records : List Record) : Effect σ :=
  ⟨.dropped, synchronizer, store, records⟩

/-- Puts a row at its place, over the row of the same identity if there is one. -/
def placeRow (host : Host σ) (row : Row) (synchronizer : Synchronizer) (store : σ) : Effect σ :=
  if synchronizer.phase = .closed then synchronizer.ignored store []
  else
    let (key, keyRecords) := host.keyOf row store
    let shown := (host.labels store).map (·.shown)
    let begun := keyRecords ++ [.placementBegun (redact key)]
    let live := synchronizer.enter .live
    match Placement.among key shown with
    | .replace index =>
      let (store, records) := host.replace index row store
      ⟨.replaced index, live, store, begun ++ .replacing index :: records⟩
    | .insert index =>
      let (store, records) := host.insert index row store
      ⟨.inserted index, live, store, begun ++ .insertingBefore index :: records⟩
    | .append =>
      let index := shown.length
      let (store, records) := host.insert index row store
      ⟨.appended index, live, store, begun ++ .appending index :: records⟩

/-- Builds the row that a payload describes and puts it at its place. A payload
that is no JSON list changes nothing. -/
def applyUpsert (host : Host σ) (payload : String) (synchronizer : Synchronizer) (store : σ) : Effect σ :=
  if synchronizer.phase = .closed then synchronizer.ignored store [.upsertBegun]
  else
    match upsertValues payload with
    | .error error =>
      synchronizer.ignored store [.upsertBegun, .upsertDropped error (redact payload)]
    | .ok values =>
      let received := Row.verbatim values synchronizer.columns synchronizer.settings.htmlColumns
      let (row, store, cleaned) := host.clean received store
      let placed := placeRow host row synchronizer store
      { placed with records := .upsertBegun :: cleaned ++ placed.records }

/-- Removes the first row whose sort key, or else shown text, is the target in
any letter case. -/
def removeNamed (host : Host σ) (target : String) (synchronizer : Synchronizer) (store : σ) : Effect σ :=
  if synchronizer.phase = .closed then synchronizer.ignored store []
  else
    let live := synchronizer.enter .live
    let target := Key.lowerCase target
    match (host.labels store).findIdx? fun label => Key.lowerCase label.effective = target with
    | some index =>
      let (store, records) := host.remove index store
      ⟨.removed index, live, store, .removing index :: records⟩
    | none => ⟨.notFound, live, store, [.unmatched (redact target)]⟩

/-- Removes the row that a payload names. A payload that names none changes
nothing. -/
def applyRemove (host : Host σ) (payload : String) (synchronizer : Synchronizer) (store : σ) : Effect σ :=
  if synchronizer.phase = .closed then synchronizer.ignored store [.removeBegun]
  else
    match synchronizer.settings.targetChain.resolve payload with
    | some target =>
      let removed := removeNamed host target synchronizer store
      { removed with records := .removeBegun :: removed.records }
    | none => synchronizer.ignored store [.removeBegun, .removeIgnored (redact payload)]

/-- Clears the table, which no longer follows the stream. -/
def applyReset (host : Host σ) (synchronizer : Synchronizer) (store : σ) : Effect σ :=
  if synchronizer.phase = .closed then synchronizer.ignored store [.resetBegun]
  else
    let count := (host.labels store).length
    ⟨.cleared count, synchronizer.enter .empty, host.clear store, [.resetBegun, .cleared count]⟩

/-- Applies an event of a kind. A reset has no use for its payload. -/
def apply (host : Host σ) (kind : EventKind) (payload : String)
    (synchronizer : Synchronizer) (store : σ) : Effect σ :=
  match kind with
  | .upsert => synchronizer.applyUpsert host payload store
  | .remove => synchronizer.applyRemove host payload store
  | .reset => synchronizer.applyReset host store

end Synchronizer

end StreamTable
