import StreamTable.Proofs.Edits
import StreamTable.Sync.Memory
import StreamTable.Row.Sanitizer

/-! What the records of a run tell of its stream. Every line follows from the handler that is
called, the phase that it finds, its outcome and, for a payload of an upsert that cannot be
used, the text of the error. Keys, cells, targets and payloads are redacted on their way to
a record, so runs that agree on the rest leave the same lines, whatever they were sent. -/

namespace StreamTable

/-- What is called for an operation, if it does more than to move the phase. -/
inductive Handler where
  | event (kind : EventKind)
  | removeNamed
  | placeRow
  deriving DecidableEq

/-- What the records of an operation may tell of it. -/
structure Disclosure where
  handler : Option Handler
  /-- The phase before the operation. -/
  phase : Phase
  outcome : Option Outcome
  /-- The text of the error over a payload, if an upsert was dropped for it. -/
  fault : Option String
  deriving DecidableEq

/-- The records with which a handler begins, whatever it finds. -/
def Handler.begun : Handler → List Record
  | event .upsert => [.upsertBegun]
  | event .remove => [.removeBegun]
  | event .reset => [.resetBegun]
  | removeNamed | placeRow => []

/-- The records of what was done, with nothing of the row or of the target. -/
def Outcome.told : Outcome → List Record
  | inserted index => [.placementBegun "[redacted]", .insertingBefore index]
  | replaced index => [.placementBegun "[redacted]", .replacing index]
  | appended index => [.placementBegun "[redacted]", .appending index]
  | removed index => [.removing index]
  | notFound => [.unmatched "[redacted]"]
  | cleared count => [.cleared count]
  | dropped => []

namespace Disclosure

def refusal (disclosure : Disclosure) : List String :=
  match disclosure.fault with
  | some fault => ["WARN " ++ ("Dropping upsert event: " ++ fault ++ " (payload: " ++ Text.quoted "[redacted]" ++ ")")]
  | none =>
    if disclosure.handler = some (.event .remove) ∧ disclosure.phase ≠ .closed ∧ disclosure.outcome = some .dropped then
      [Record.text (.removeIgnored "[redacted]")]
    else []

/-- The lines that an operation leaves, as far as it is disclosed. -/
def lines (disclosure : Disclosure) : List String :=
  ((disclosure.handler.toList.flatMap Handler.begun) ++ (disclosure.outcome.toList.flatMap Outcome.told)).map Record.text ++
    disclosure.refusal

end Disclosure

/-- The text of the error over a payload of an upsert, if there is one. A closed synchronizer
does not look at payloads. -/
def Synchronizer.fault? (synchronizer : Synchronizer) (payload : String) : Option String :=
  if synchronizer.phase = .closed then none
  else
    match upsertValues payload with
    | .error error => some error.message
    | .ok _ => none

def EventKind.fault? (synchronizer : Synchronizer) (payload : String) : EventKind → Option String
  | upsert => synchronizer.fault? payload
  | remove | reset => none

namespace Operation

def handler? (settings : Settings) : Operation → Option Handler
  | removeNamed _ => some .removeNamed
  | placeRow _ => some .placeRow
  | operation => (operation.event? settings).map fun (kind, _) => .event kind

def fault? (synchronizer : Synchronizer) (operation : Operation) : Option String :=
  (operation.event? synchronizer.settings).bind fun (kind, payload) => kind.fault? synchronizer payload

variable {σ : Type} (host : Host σ)

def disclosure (synchronizer : Synchronizer) (store : σ) (operation : Operation) : Disclosure :=
  ⟨operation.handler? synchronizer.settings, synchronizer.phase,
    (operation.perform host synchronizer store).outcome, operation.fault? synchronizer⟩

def disclosures (synchronizer : Synchronizer) (store : σ) : List Operation → List Disclosure
  | [] => []
  | operation :: rest =>
    let step := operation.perform host synchronizer store
    operation.disclosure host synchronizer store :: disclosures step.synchronizer step.store rest

def recorded (synchronizer : Synchronizer) (store : σ) (operations : List Operation) : List (List String) :=
  (run host synchronizer store operations).map fun step => step.records.map Record.text

end Operation

variable {σ : Type}

/-- A host that leaves no records of its own. -/
structure Host.Silent (host : Host σ) : Prop where
  keyOf (row : Row) (store : σ) : (host.keyOf row store).2 = []
  clean (row : Row) (store : σ) : (host.clean row store).2.2 = []
  insert (index : Nat) (row : Row) (store : σ) : (host.insert index row store).2 = []
  replace (index : Nat) (row : Row) (store : σ) : (host.replace index row store).2 = []
  remove (index : Nat) (store : σ) : (host.remove index store).2 = []

theorem memoryHost_silent (sanitizer : Option (String → String)) : (memoryHost sanitizer).Silent :=
  ⟨fun _ _ => rfl, fun _ _ => rfl, fun _ _ _ => rfl, fun _ _ _ => rfl, fun _ _ => rfl⟩

namespace Synchronizer

variable {host : Host σ} (silent : host.Silent) (synchronizer : Synchronizer) (store : σ)

include silent

theorem records_placeRow (row : Row) :
    (synchronizer.placeRow host row store).records = (synchronizer.placeRow host row store).outcome.told := by
  simp only [placeRow, silent.keyOf]
  split
  · rfl
  · split
    next index _ => simp only [silent.replace]; rfl
    next index _ => simp only [silent.insert]; rfl
    next => simp only [silent.insert]; rfl

theorem records_removeNamed (target : String) :
    (synchronizer.removeNamed host target store).records = (synchronizer.removeNamed host target store).outcome.told := by
  simp only [removeNamed]
  split
  · rfl
  · split
    next index _ => simp only [silent.remove]; rfl
    next => rfl

omit silent in
private theorem removeNamed_ne_dropped (active : synchronizer.phase ≠ .closed) (target : String) :
    (synchronizer.removeNamed host target store).outcome ≠ .dropped := by
  simp only [removeNamed, active, ite_false]
  split <;> simp

theorem lines_apply (kind : EventKind) (payload : String) :
    (synchronizer.apply host kind payload store).records.map Record.text =
      Disclosure.lines ⟨some (.event kind), synchronizer.phase,
        some (synchronizer.apply host kind payload store).outcome, kind.fault? synchronizer payload⟩ := by
  cases kind with
  | upsert =>
    simp only [apply, applyUpsert, EventKind.fault?, fault?]
    split
    · rfl
    · cases upsertValues payload with
      | error error => rfl
      | ok values =>
        simp only [silent.clean, records_placeRow silent]
        simp [Disclosure.lines, Disclosure.refusal, Handler.begun]
  | remove =>
    simp only [apply, applyRemove, EventKind.fault?]
    split
    next closed => simp [Disclosure.lines, Disclosure.refusal, closed]; rfl
    next active =>
      split
      next target _ =>
        simp only [records_removeNamed silent]
        have answered : (synchronizer.removeNamed host target store).outcome ≠ .dropped :=
          synchronizer.removeNamed_ne_dropped store active target
        simp [Disclosure.lines, Disclosure.refusal, Handler.begun, answered]
      next => simp [Disclosure.lines, Disclosure.refusal, active]; rfl
  | reset =>
    simp only [apply, applyReset, EventKind.fault?]
    split <;> rfl

end Synchronizer

namespace Operation

variable {host : Host σ} {synchronizer : Synchronizer} {operation : Operation}

theorem event?_of_isQuiet (quiet : operation.isQuiet synchronizer.settings) :
    operation.event? synchronizer.settings = none := by
  cases asked : operation.event? synchronizer.settings with
  | none => rfl
  | some event => simp [not_isQuiet_of_event asked] at quiet

theorem handler?_of_isQuiet (quiet : operation.isQuiet synchronizer.settings) :
    operation.handler? synchronizer.settings = none := by
  have silent := event?_of_isQuiet quiet
  cases operation with
  | connecting | opened | close => rfl
  | upsert _ | remove _ | reset | apply _ _ | removeNamed _ | placeRow _ => cases quiet
  | named name payload => simp only [handler?, silent, Option.map_none]

theorem handler?_of_event {kind : EventKind} {payload : String}
    (event : operation.event? synchronizer.settings = some (kind, payload)) :
    operation.handler? synchronizer.settings = some (.event kind) := by
  cases operation with
  | connecting | opened | close | removeNamed _ | placeRow _ => cases event
  | upsert _ | remove _ | reset | apply _ _ | named _ _ => simp only [handler?, event, Option.map_some]

variable (silent : host.Silent) (synchronizer) (store : σ)

include silent

theorem lines_perform (operation : Operation) :
    (operation.perform host synchronizer store).records.map Record.text =
      (operation.disclosure host synchronizer store).lines := by
  rcases operation.cases_event synchronizer with quiet | ⟨kind, payload, event⟩ | ⟨target, rfl⟩ | ⟨row, rfl⟩
  · simp only [disclosure, fault?, handler?_of_isQuiet quiet, event?_of_isQuiet quiet, perform_of_isQuiet host store quiet]
    rfl
  · simp only [disclosure, fault?, handler?_of_event event, event, perform_of_event host store event]
    exact synchronizer.lines_apply silent store kind payload
  · have records := synchronizer.records_removeNamed silent store target
    simp [disclosure, perform, Effect.toStep, records, handler?, fault?, event?, Disclosure.lines, Disclosure.refusal,
      Handler.begun]
  · have records := synchronizer.records_placeRow silent store row
    simp [disclosure, perform, Effect.toStep, records, handler?, fault?, event?, Disclosure.lines, Disclosure.refusal,
      Handler.begun]

theorem recorded_eq (operations : List Operation) :
    recorded host synchronizer store operations = (disclosures host synchronizer store operations).map Disclosure.lines := by
  induction operations generalizing synchronizer store with
  | nil => rfl
  | cons operation rest ih =>
    rw [disclosures, List.map_cons, ← ih, ← lines_perform synchronizer silent]
    rfl

omit silent

/-- Runs over rows in memory that agree on the handlers that are called, on the phases before
them, on the outcomes and on the errors over payloads record the same lines. Rows, columns,
settings, sanitizers, keys, targets and payloads may differ. -/
theorem records_tell_no_more (sanitizer otherSanitizer : Option (String → String)) (synchronizer other : Synchronizer)
    (entries others : List Entry) (operations otherOperations : List Operation)
    (agree : disclosures (memoryHost sanitizer) synchronizer entries operations =
      disclosures (memoryHost otherSanitizer) other others otherOperations) :
    recorded (memoryHost sanitizer) synchronizer entries operations =
      recorded (memoryHost otherSanitizer) other others otherOperations := by
  rw [recorded_eq synchronizer (memoryHost_silent sanitizer), recorded_eq other (memoryHost_silent otherSanitizer), agree]

def peopleEntries : List Entry := [⟨⟨"Ann", [.text "Ann"]⟩, some "a-1"⟩, ⟨⟨"zoe", [.html "<i>Zoe</i>"]⟩, none⟩]

def peopleRun : List Operation :=
  [.opened, .upsert "[\"<b>Bob</b>\"]", .upsert "[null", .upsert "7", .remove "A-1", .removeNamed "nobody", .remove "\x7b\x7d",
    .placeRow ⟨"", [.text "ZOE"]⟩, .close, .upsert "[", .remove "zoe"]

def roomSettings : Settings where
  htmlColumns := .empty
  eventNames := { upsert := "booked", remove := "left" }
  targetChain := ⟨[.field "room"]⟩

def roomEntries : List Entry := [⟨⟨"", [.text "attic"]⟩, some "top"⟩, ⟨⟨"", [.text "west", .text "3"]⟩, none⟩]

def roomRun : List Operation :=
  [.opened, .named "booked" "[\"east\", null, 5]", .apply .upsert "[true", .upsert "12",
    .named "left" "\x7b\"room\":\"TOP\"\x7d", .removeNamed "cellar", .remove "\"west\"",
    .placeRow ⟨"wing", [.text "West ", .text "4"]⟩, .close, .upsert "[1]", .remove "west"]

theorem records_tell_no_more_rooms :
    disclosures (memoryHost none) ⟨1, {}, .connecting⟩ peopleEntries peopleRun =
        disclosures (memoryHost (some Sanitizer.textOnly)) ⟨3, roomSettings, .connecting⟩ roomEntries roomRun ∧
      recorded (memoryHost none) ⟨1, {}, .connecting⟩ peopleEntries peopleRun =
        recorded (memoryHost (some Sanitizer.textOnly)) ⟨3, roomSettings, .connecting⟩ roomEntries roomRun := by
  have agree : disclosures (memoryHost none) ⟨1, {}, .connecting⟩ peopleEntries peopleRun =
      disclosures (memoryHost (some Sanitizer.textOnly)) ⟨3, roomSettings, .connecting⟩ roomEntries roomRun := by
    decide +kernel
  exact ⟨agree, records_tell_no_more _ _ _ _ _ _ _ _ agree⟩

end Operation

end StreamTable
