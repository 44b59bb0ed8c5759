import StreamTable.Sync.Operation

/-! What an operation asks of the rows. However it is put, as a payload, an event or
a call, it comes down to one edit or to none, and that depends on no row and on no
phase. All else that an operation does is to move the phase. -/

namespace StreamTable

inductive Edit where
  | place (row : Row)
  | remove (target : String)
  | reset
  deriving DecidableEq, Repr

namespace Edit

def operation : Edit → Operation
  | place row => .placeRow row
  | remove target => .removeNamed target
  | reset => .reset

def row? : Edit → Option Row
  | place row => some row
  | remove _ | reset => none

end Edit

variable (sanitizer : Option (String → String)) (synchronizer : Synchronizer)

def Synchronizer.row? (payload : String) : Option Row :=
  match upsertValues payload with
  | .error _ => none
  | .ok values =>
    some (Row.build values synchronizer.columns synchronizer.settings.htmlColumns sanitizer)

def EventKind.edit? (payload : String) : EventKind → Option Edit
  | upsert => (synchronizer.row? sanitizer payload).map .place
  | remove => (synchronizer.settings.targetChain.resolve payload).map .remove
  | reset => some .reset

namespace Operation

def event? (settings : Settings) : Operation → Option (EventKind × String)
  | upsert payload => some (.upsert, payload)
  | remove payload => some (.remove, payload)
  | reset => some (.reset, "")
  | apply kind payload => some (kind, payload)
  | named name payload => (settings.eventNames.kind? name).map fun kind => (kind, payload)
  | connecting | opened | close | removeNamed _ | placeRow _ => none

def edit? : Operation → Option Edit
  | placeRow row => some (.place row)
  | removeNamed target => some (.remove target)
  | operation =>
    (operation.event? synchronizer.settings).bind fun (kind, payload) => kind.edit? sanitizer synchronizer payload

def row? (operation : Operation) : Option Row := (operation.edit? sanitizer synchronizer).bind Edit.row?

/-- An operation that has no outcome: it moves the phase, or is an event that
nothing listens for. -/
def isQuiet (settings : Settings) : Operation → Bool
  | connecting | opened | close => true
  | named name _ => (settings.eventNames.kind? name).isNone
  | _ => false

def moved : Operation → Synchronizer
  | connecting => synchronizer.connecting
  | opened => synchronizer.opened
  | close => synchronizer.close
  | _ => synchronizer

variable {sanitizer synchronizer} {σ : Type}

theorem perform_of_event (host : Host σ) (store : σ) {operation : Operation} {kind : EventKind} {payload : String}
    (event : operation.event? synchronizer.settings = some (kind, payload)) :
    operation.perform host synchronizer store = (synchronizer.apply host kind payload store).toStep := by
  cases operation with
  | connecting | opened | close | removeNamed _ | placeRow _ => cases event
  | upsert _ | remove _ | reset | apply _ _ => cases event; rfl
  | named name _ =>
    obtain ⟨_, known, same⟩ := Option.map_eq_some_iff.mp event
    cases same
    simp only [perform, known]

theorem edit?_of_event {operation : Operation} {kind : EventKind} {payload : String}
    (event : operation.event? synchronizer.settings = some (kind, payload)) :
    operation.edit? sanitizer synchronizer = kind.edit? sanitizer synchronizer payload := by
  cases operation with
  | connecting | opened | close | removeNamed _ | placeRow _ => cases event
  | upsert _ | remove _ | reset | apply _ _ | named _ _ => simp only [edit?, event, Option.bind_some]

theorem not_isQuiet_of_event {operation : Operation} {event : EventKind × String}
    (asked : operation.event? synchronizer.settings = some event) :
    operation.isQuiet synchronizer.settings = false := by
  cases operation with
  | connecting | opened | close | removeNamed _ | placeRow _ => cases asked
  | upsert _ | remove _ | reset | apply _ _ => rfl
  | named name _ =>
    obtain ⟨_, known, _⟩ := Option.map_eq_some_iff.mp asked
    simp [isQuiet, known]

theorem perform_of_isQuiet (host : Host σ) (store : σ) {operation : Operation}
    (quiet : operation.isQuiet synchronizer.settings) :
    operation.perform host synchronizer store = .quiet (operation.moved synchronizer) store := by
  cases operation with
  | connecting | opened | close => rfl
  | upsert _ | remove _ | reset | apply _ _ | removeNamed _ | placeRow _ => cases quiet
  | named name _ =>
    have unknown : synchronizer.settings.eventNames.kind? name = none := by simpa [isQuiet] using quiet
    simp only [perform, unknown, moved]

theorem edit?_of_isQuiet {operation : Operation} (quiet : operation.isQuiet synchronizer.settings) :
    operation.edit? sanitizer synchronizer = none := by
  cases operation with
  | connecting | opened | close => rfl
  | upsert _ | remove _ | reset | apply _ _ | removeNamed _ | placeRow _ => cases quiet
  | named name _ =>
    have unknown : synchronizer.settings.eventNames.kind? name = none := by simpa [isQuiet] using quiet
    simp [edit?, event?, unknown]

theorem cases_event (synchronizer : Synchronizer) (operation : Operation) :
    operation.isQuiet synchronizer.settings ∨
      (∃ kind payload, operation.event? synchronizer.settings = some (kind, payload)) ∨
      (∃ target, operation = removeNamed target) ∨ ∃ row, operation = placeRow row := by
  cases operation with
  | connecting | opened | close => exact Or.inl rfl
  | upsert _ | remove _ | reset | apply _ _ => exact Or.inr (Or.inl ⟨_, _, rfl⟩)
  | removeNamed target => exact Or.inr (Or.inr (Or.inl ⟨target, rfl⟩))
  | placeRow row => exact Or.inr (Or.inr (Or.inr ⟨row, rfl⟩))
  | named name payload =>
    cases known : synchronizer.settings.eventNames.kind? name with
    | none => exact Or.inl (by simp [isQuiet, known])
    | some kind => exact Or.inr (Or.inl ⟨kind, payload, by simp [event?, known]⟩)

end Operation

/-- A host that cleans rows with a function and does nothing else meanwhile. -/
def Host.CleansWith {σ : Type} (host : Host σ) (sanitizer : Option (String → String)) : Prop :=
  ∀ row store, host.clean row store = (row.clean sanitizer, store, [])

def Step.after {σ : Type} (records : List Record) (step : Step σ) : Step σ :=
  { step with records := records ++ step.records }

namespace Operation

/-- What becomes of an operation, whoever holds the rows: it has no outcome, it is
dropped, or it is one edit, records apart. -/
inductive Course (sanitizer : Option (String → String)) (synchronizer : Synchronizer) (operation : Operation) : Prop where
  | quiet (silent : operation.isQuiet synchronizer.settings = true)
      (done : ∀ {σ : Type} (host : Host σ) (store : σ),
        operation.perform host synchronizer store = .quiet (operation.moved synchronizer) store)
  | dropped (told : operation.isQuiet synchronizer.settings = false)
      (useless : operation.edit? sanitizer synchronizer = none) (records : List Record)
      (done : ∀ {σ : Type} (host : Host σ) (store : σ),
        operation.perform host synchronizer store = ⟨some .dropped, synchronizer, store, records⟩)
  | edited (told : operation.isQuiet synchronizer.settings = false) (edit : Edit)
      (asked : operation.edit? sanitizer synchronizer = some edit) (records : List Record)
      (done : ∀ {σ : Type} (host : Host σ) (store : σ), host.CleansWith sanitizer →
        operation.perform host synchronizer store =
          (edit.operation.perform host synchronizer store).after records)

private theorem course_of_upsert {operation : Operation} {payload : String}
    (event : operation.event? synchronizer.settings = some (.upsert, payload)) :
    operation.Course sanitizer synchronizer := by
  have told := not_isQuiet_of_event event
  have asked : operation.edit? sanitizer synchronizer = (synchronizer.row? sanitizer payload).map .place :=
    edit?_of_event event
  cases decoded : upsertValues payload with
  | error error =>
    rw [Synchronizer.row?, decoded] at asked
    refine .dropped told asked
      (if synchronizer.phase = .closed then [.upsertBegun] else [.upsertBegun, .upsertDropped error (redact payload)]) ?_
    intro σ host store
    rw [perform_of_event host store event]
    simp only [Synchronizer.apply, Synchronizer.applyUpsert, decoded]
    split <;> rfl
  | ok values =>
    rw [Synchronizer.row?, decoded] at asked
    refine .edited told _ asked [.upsertBegun] ?_
    intro σ host store cleans
    rw [perform_of_event host store event]
    simp only [Synchronizer.apply, Synchronizer.applyUpsert, decoded, cleans _ store]
    split
    next closed => simp [Edit.operation, perform, Synchronizer.placeRow, closed]; rfl
    next => rfl

private theorem course_of_remove {operation : Operation} {payload : String}
    (event : operation.event? synchronizer.settings = some (.remove, payload)) :
    operation.Course sanitizer synchronizer := by
  have told := not_isQuiet_of_event event
  have asked : operation.edit? sanitizer synchronizer =
      (synchronizer.settings.targetChain.resolve payload).map .remove := edit?_of_event event
  cases resolved : synchronizer.settings.targetChain.resolve payload with
  | none =>
    rw [resolved] at asked
    refine .dropped told asked
      (if synchronizer.phase = .closed then [.removeBegun] else [.removeBegun, .removeIgnored (redact payload)]) ?_
    intro σ host store
    rw [perform_of_event host store event]
    simp only [Synchronizer.apply, Synchronizer.applyRemove, resolved]
    split <;> rfl
  | some target =>
    rw [resolved] at asked
    refine .edited told _ asked [.removeBegun] ?_
    intro σ host store _
    rw [perform_of_event host store event]
    simp only [Synchronizer.apply, Synchronizer.applyRemove, resolved]
    split
    next closed => simp [Edit.operation, perform, Synchronizer.removeNamed, closed]; rfl
    next => rfl

theorem course (operation : Operation) : operation.Course sanitizer synchronizer := by
  rcases operation.cases_event synchronizer with quiet | ⟨kind, payload, event⟩ | ⟨target, rfl⟩ | ⟨row, rfl⟩
  · exact .quiet quiet fun host store => perform_of_isQuiet host store quiet
  · cases kind with
    | upsert => exact course_of_upsert sanitizer synchronizer event
    | remove => exact course_of_remove sanitizer synchronizer event
    | reset =>
      exact .edited (not_isQuiet_of_event event) .reset (edit?_of_event event) [] fun host store _ =>
        perform_of_event host store event
  · exact .edited rfl (.remove target) rfl [] fun _ _ _ => rfl
  · exact .edited rfl (.place row) rfl [] fun _ _ _ => rfl

end Operation

theorem Synchronizer.active_enter_live : (synchronizer.enter .live).phase ≠ .closed := by simp [enter]

section Phases

variable {σ : Type} (host : Host σ) (store : σ)

theorem Edit.perform_closed {synchronizer : Synchronizer} (edit : Edit) (closed : synchronizer.phase = .closed) :
    ∃ records, edit.operation.perform host synchronizer store = ⟨some .dropped, synchronizer, store, records⟩ := by
  cases edit with
  | place row => exact ⟨[], by simp only [operation, Operation.perform, Synchronizer.placeRow, closed, ite_true]; rfl⟩
  | remove target =>
    exact ⟨[], by simp only [operation, Operation.perform, Synchronizer.removeNamed, closed, ite_true]; rfl⟩
  | reset =>
    exact ⟨[.resetBegun], by simp only [operation, Operation.perform, Synchronizer.applyReset, closed, ite_true]; rfl⟩

private theorem Edit.perform_enters (edit : Edit) :
    ∃ phase, (edit.operation.perform host synchronizer store).synchronizer = synchronizer.enter phase ∧
      (phase = .closed ↔ synchronizer.phase = .closed) := by
  cases edit with
  | place row =>
    simp only [operation, Operation.perform, Synchronizer.placeRow]
    split
    next closed => exact ⟨synchronizer.phase, rfl, Iff.rfl⟩
    next active => split <;> exact ⟨.live, rfl, by simp [active]⟩
  | remove target =>
    simp only [operation, Operation.perform, Synchronizer.removeNamed]
    split
    next closed => exact ⟨synchronizer.phase, rfl, Iff.rfl⟩
    next active => split <;> exact ⟨.live, rfl, by simp [active]⟩
  | reset =>
    simp only [operation, Operation.perform, Synchronizer.applyReset]
    split
    next closed => exact ⟨synchronizer.phase, rfl, Iff.rfl⟩
    next active => exact ⟨.empty, rfl, by simp [active]⟩

private theorem Operation.moved_enters {operation : Operation} (quiet : operation.isQuiet synchronizer.settings) :
    ∃ phase, operation.moved synchronizer = synchronizer.enter phase ∧
      (phase = .closed ↔ synchronizer.phase = .closed ∨ operation = .close) := by
  cases operation with
  | connecting =>
    simp only [moved, Synchronizer.connecting]
    split
    next before => exact ⟨.connecting, rfl, by simp [before]⟩
    next => exact ⟨synchronizer.phase, rfl, by simp⟩
  | opened =>
    simp only [moved, Synchronizer.opened]
    split
    next => exact ⟨synchronizer.phase, rfl, by simp⟩
    next active => exact ⟨.live, rfl, by simp [active]⟩
  | close => exact ⟨.closed, rfl, by simp⟩
  | named _ _ => exact ⟨synchronizer.phase, rfl, by simp⟩
  | upsert _ | remove _ | reset | apply _ _ | removeNamed _ | placeRow _ => cases quiet

private theorem Synchronizer.apply_enters (kind : EventKind) (payload : String) :
    ∃ phase, (synchronizer.apply host kind payload store).synchronizer = synchronizer.enter phase ∧
      (phase = .closed ↔ synchronizer.phase = .closed) := by
  cases kind with
  | upsert =>
    simp only [apply, applyUpsert]
    split
    next => exact ⟨synchronizer.phase, rfl, Iff.rfl⟩
    next =>
      split
      next => exact ⟨synchronizer.phase, rfl, Iff.rfl⟩
      next values _ =>
        let received := Row.verbatim values synchronizer.columns synchronizer.settings.htmlColumns
        exact (Edit.place (host.clean received store).1).perform_enters synchronizer host (host.clean received store).2.1
  | remove =>
    simp only [apply, applyRemove]
    split
    next => exact ⟨synchronizer.phase, rfl, Iff.rfl⟩
    next =>
      split
      next target _ => exact (Edit.remove target).perform_enters synchronizer host store
      next => exact ⟨synchronizer.phase, rfl, Iff.rfl⟩
  | reset => exact Edit.reset.perform_enters synchronizer host store

/-- The columns and the settings of a synchronizer are never changed, and it is closed
by nothing but a call and for good. -/
theorem Operation.perform_enters (operation : Operation) :
    ∃ phase, (operation.perform host synchronizer store).synchronizer = synchronizer.enter phase ∧
      (phase = .closed ↔ synchronizer.phase = .closed ∨ operation = .close) := by
  rcases operation.cases_event synchronizer with quiet | ⟨kind, payload, event⟩ | ⟨target, rfl⟩ | ⟨row, rfl⟩
  · rw [perform_of_isQuiet host store quiet]
    exact operation.moved_enters synchronizer quiet
  · have other : operation ≠ .close := by
      rintro rfl
      cases event
    obtain ⟨phase, entered, closed⟩ := synchronizer.apply_enters host store kind payload
    rw [perform_of_event host store event]
    exact ⟨phase, entered, by simp [closed, other]⟩
  · obtain ⟨phase, entered, closed⟩ := (Edit.remove target).perform_enters synchronizer host store
    exact ⟨phase, entered, by simp [closed]⟩
  · obtain ⟨phase, entered, closed⟩ := (Edit.place row).perform_enters synchronizer host store
    exact ⟨phase, entered, by simp [closed]⟩

end Phases

namespace Operation

/-- The rows that a run puts into the table, which it does until it is closed. -/
def placedRows (operations : List Operation) : List Row :=
  if synchronizer.phase = .closed then []
  else (operations.takeWhile (· ≠ .close)).filterMap (row? sanitizer synchronizer)

variable {sanitizer synchronizer} {operation : Operation} {rest : List Operation} {row : Row}

theorem mem_placedRows_first (active : synchronizer.phase ≠ .closed) (given : row ∈ operation.row? sanitizer synchronizer) :
    row ∈ placedRows sanitizer synchronizer (operation :: rest) := by
  have goesOn : operation ≠ .close := by
    intro same
    subst same
    cases given
  simp only [placedRows, active, ite_false, List.mem_filterMap]
  exact ⟨operation, by simp [goesOn], given⟩

theorem mem_placedRows_later {phase : Phase}
    (closed : phase = .closed ↔ synchronizer.phase = .closed ∨ operation = .close)
    (placed : row ∈ placedRows sanitizer (synchronizer.enter phase) rest) :
    row ∈ placedRows sanitizer synchronizer (operation :: rest) := by
  by_cases ended : phase = .closed
  · simp [placedRows, Synchronizer.enter, ended] at placed
  · have goesOn := mt closed.mpr ended
    rw [not_or] at goesOn
    simp only [placedRows, Synchronizer.enter, ended, ite_false, List.mem_filterMap] at placed
    obtain ⟨later, member, given⟩ := placed
    simp only [placedRows, goesOn.1, ite_false, List.mem_filterMap]
    exact ⟨later, by simpa [goesOn.2] using Or.inr member, given⟩

def rowsAfter {σ : Type} (host : Host σ) (synchronizer : Synchronizer) (store : σ) (operations : List Operation) : σ :=
  ((run host synchronizer store operations).getLast?.map (·.store)).getD store

theorem rowsAfter_cons {σ : Type} (host : Host σ) (synchronizer : Synchronizer) (store : σ)
    (operation : Operation) (rest : List Operation) :
    rowsAfter host synchronizer store (operation :: rest) =
      rowsAfter host (operation.perform host synchronizer store).synchronizer
        (operation.perform host synchronizer store).store rest := by
  simp only [rowsAfter, run, List.getLast?_cons]
  cases (run host _ _ rest).getLast? <;> rfl

end Operation

end StreamTable
