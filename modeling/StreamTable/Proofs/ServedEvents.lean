import StreamTable.Proofs.Services

/-! Which services come of what is asked of an attachment, and of a whole event. An upsert
that is taken is one service of the attachment itself; while it is borrowed for that, all
other services are of other attachments. -/

namespace StreamTable

def Synchronizer.upsert? (synchronizer : Synchronizer) (operation : Operation) : Option String :=
  match operation.event? synchronizer.settings with
  | some (.upsert, payload) => if synchronizer.takes payload then some payload else none
  | _ => none

theorem Synchronizer.upsert?_eq_some_iff {synchronizer : Synchronizer} {operation : Operation} {payload : String} :
    synchronizer.upsert? operation = some payload ↔
      operation.event? synchronizer.settings = some (.upsert, payload) ∧ synchronizer.takes payload := by
  simp only [upsert?]
  split
  next other known =>
    simp only [known, Option.some.injEq, Prod.mk.injEq, true_and]
    split
    next taken =>
      refine ⟨fun same => ?_, fun same => congrArg some same.1⟩
      cases same
      exact ⟨rfl, taken⟩
    next untaken =>
      refine ⟨fun same => (nomatch same), ?_⟩
      rintro ⟨rfl, taken⟩
      exact absurd taken untaken
  next none =>
    refine ⟨fun same => (nomatch same), ?_⟩
    rintro ⟨known, -⟩
    exact absurd known (none payload)

theorem Synchronizer.takes_enter {synchronizer : Synchronizer} {phase : Phase}
    (same : phase = .closed ↔ synchronizer.phase = .closed) (payload : String) :
    (synchronizer.enter phase).takes payload = synchronizer.takes payload := by
  simp only [Synchronizer.takes, Synchronizer.enter, ne_eq, same]

namespace Page

def Role.operation (event : PageEvent) : Role → Operation
  | applies kind => .apply kind event.payload
  | opens => .opened

def Listener.upserts (event : PageEvent) (listener : Listener) : Bool :=
  listener.name = event.name && listener.role = .applies .upsert

theorem Role.upsert?_operation (synchronizer : Synchronizer) (event : PageEvent) (role : Role) :
    synchronizer.upsert? (role.operation event) =
      if role = .applies .upsert ∧ synchronizer.takes event.payload then some event.payload else none := by
  cases role with
  | opens => simp [Role.operation, Synchronizer.upsert?, Operation.event?]
  | applies kind => cases kind <;> simp [Role.operation, Synchronizer.upsert?, Operation.event?]

def Service.lookupsOf (index : Nat) (services : List Service) : List Lookup :=
  (services.filter (·.index = index)).flatMap (·.lookups)

namespace World

/-- How services of a payload by an attachment take a world to another, with the services
of others that their lookups cause. -/
structure Serves (index : Nat) (payload : String) (count : Nat) (services : List Service) (before after : World) :
    Prop where
  served : Served (Service.lookupsOf index services) [] services before after
  count : services.countP (·.index = index) = count
  payload : ∀ service ∈ services, service.index = index → service.payload = payload

/-- A service by an attachment whose row is in its table in the end. -/
def Stays (index : Nat) (services : List Service) (before after : World) : Prop :=
  ∃ service ∈ services, service.index = index ∧ service.Stays before after

variable {delivery : Delivery} {index : Nat} {payload : String} {services : List Service}

theorem Delivery.Serves.moves (serves : delivery.Serves) : delivery.Moves := by
  intro dispatch world
  obtain ⟨outer, services, served⟩ := serves dispatch world
  exact served.moves

theorem Serves.of_none {before after : World} (served : Served [] [] [] before after) :
    Serves index payload 0 [] before after := ⟨served, rfl, by simp⟩

theorem Serves.trans {first second third : World} {count more : Nat} {later : List Service}
    (before : Serves index payload count services first second) (after : Serves index payload more later second third) :
    Serves index payload (count + more) (services ++ later) first third where
  served := by
    have both := before.served.trans after.served
    simpa [Service.lookupsOf] using both
  count := by rw [List.countP_append, before.count, after.count]
  payload service member := (List.mem_append.mp member).elim (before.payload service) (after.payload service)

/-- A row that is placed makes a service of the lookups that were pending for it. -/
theorem Served.placed {outer own : List Lookup} {before during : World}
    (served : Served outer own services before during) {service : Service} (lookups : service.lookups = own) (answers : service.AnswersIn before) {rows : TableRows}
    {page : Page} (edited : rows.Edited during.page page)
    (brought : ∀ id, ∀ pageRow ∈ page.rowsOf id, pageRow ∈ during.page.rowsOf id ∨ service.Shows before id pageRow) :
    Served outer [] (services ++ [service]) before { during with page } where
  moves := served.moves.trans (.edited edited)
  answers := by
    simp only [List.mem_append, List.mem_singleton]
    rintro other (inside | rfl)
    · exact served.answers other inside
    · exact answers
  looked := by
    obtain ⟨made, looked, follows, accounts⟩ := served.looked
    exact ⟨made, looked, edited.purifier ▸ follows, accounts.placed lookups⟩
  brought id pageRow member := by
    rcases brought id pageRow member with old | shown
    · refine (served.brought id pageRow old).imp_right ?_
      rintro ⟨other, inside, shown⟩
      exact ⟨other, List.mem_append_left _ inside, shown⟩
    · exact Or.inr ⟨service, by simp, shown⟩
  present id := (edited.isSome_table? id).trans (served.present id)

/-- A row that was cleaned and then put at its place. -/
structure Placed (rows : TableRows) (row : Row) (own : List Lookup) (nested : List Service) (before ready : World)
    (page : Page) : Prop where
  served : Served own own nested before ready
  edited : rows.Edited ready.page page
  brought : ∀ id, ∀ pageRow ∈ page.rowsOf id,
    pageRow ∈ ready.page.rowsOf id ∨ id = rows.id ∧ pageRow = rows.rendered row
  shown : (before.page.table? rows.id).isSome → before.page.strayBody = none →
    Dataset.nameError? rows.identityAttribute = none → rows.rendered row ∈ page.rowsOf rows.id

theorem applyUpsert_placed (serves : delivery.Serves) {synchronizer : Synchronizer} (taken : synchronizer.takes payload)
    (rows : TableRows) (world : World) :
    ∃ values row own nested ready page, upsertValues payload = .ok values ∧ row.key = textAt values 0 ∧
      Filled synchronizer.settings.htmlColumns values (List.range synchronizer.columns) own row.cells ∧
      Placed rows row own nested world ready page ∧
      (synchronizer.applyUpsert (host rows delivery) payload world).store = { ready with page } := by
  obtain ⟨values, decoded, placed⟩ := Synchronizer.applyUpsert_taken (host rows delivery) world taken
  let received := Row.verbatim values synchronizer.columns synchronizer.settings.htmlColumns
  obtain ⟨own, nested, cleaned, served⟩ := Served.cleanCells serves received.cells world
  let row : Row := { received with cells := (cleanCells delivery received.cells world).1 }
  let ready := (cleanCells delivery received.cells world).2.1
  have count : ((host rows delivery).labels ready).length = rows.length ready.page := by
    rw [TableRows.length_eq]
    exact TableRows.labels_length ready.page
  obtain ⟨page, put, edited, brought, shown⟩ :=
    put_page rows delivery row ready ((host rows delivery).placement row ready)
  refine ⟨values, row, own, nested, ready, page, decoded, (textAt_eq_cellText values 0).symm, cleaned.filled,
    ⟨served, edited, brought, fun there stray accepted => ?_⟩, ?_⟩
  · obtain ⟨elements, purifier, same⟩ := served.moves.page
    exact shown ((served.present _).trans there) (by rw [same]; exact stray) accepted
      (count ▸ (host rows delivery).placement_fits row ready)
  · exact placed.trans ((congrArg (fun count => ((host rows delivery).put row count ready _).1) count).trans put)

theorem operate_upsert (serves : delivery.Serves) {operation : Operation} {world : World} {attachment : Attachment}
    (held : world.attachments[index]? = some attachment) (free : attachment.borrowed = false)
    (asked : attachment.synchronizer.upsert? operation = some payload) :
    let after := (operate delivery operation index world).2.1
    ∃ services, Serves index payload 1 services world after ∧ Stays index services world after := by
  intro after
  obtain ⟨event, taken⟩ := Synchronizer.upsert?_eq_some_iff.mp asked
  let during := world.setBorrowed true index
  obtain ⟨values, row, own, nested, ready, page, decoded, key, filled, placed, store⟩ :=
    applyUpsert_placed serves taken attachment.rows during
  obtain ⟨phase, entered, closed⟩ :=
    operation.perform_enters attachment.synchronizer (host attachment.rows delivery) during
  let next : Attachment := { attachment with synchronizer := attachment.synchronizer.enter phase }
  have moved : attachment.Moves next := ⟨phase, rfl, fun once => closed.mpr (Or.inl once)⟩
  have stored : (operation.perform (host attachment.rows delivery) attachment.synchronizer during).store =
      { ready with page } := by rw [Operation.perform_of_event _ _ event]; exact store
  have reached : after = { ready.giveBack index next with page } := by
    simp only [after, operate_held delivery operation held]
    rw [stored, entered]
    rfl
  obtain ⟨given, others⟩ := placed.served.giveBack held moved
  let service : Service := ⟨index, payload, row, own⟩
  have active : attachment.synchronizer.phase ≠ .closed := by
    simp only [Synchronizer.takes, Bool.and_eq_true, decide_eq_true_eq] at taken
    exact taken.1
  have answers : service.AnswersIn world := ⟨attachment, held, free, active, values, decoded, key, filled⟩
  have none : nested.filter (·.index = index) = [] := by simpa [List.filter_eq_nil_iff] using others
  have outer : Service.lookupsOf index (nested ++ [service]) = own := by simp [Service.lookupsOf, none, service]
  rw [reached]
  refine ⟨nested ++ [service], ⟨?_, ?_, ?_⟩, service, by simp, rfl, ?_⟩
  · rw [outer]
    refine given.placed rfl answers placed.edited fun id pageRow member => ?_
    rcases placed.brought id pageRow member with old | ⟨same, shown⟩
    · exact Or.inl old
    · exact Or.inr ⟨attachment, held, same, shown⟩
  · simp [List.countP_eq_length_filter, none, service]
  · simp only [List.mem_append, List.mem_singleton]
    rintro other (inside | rfl) same
    · exact absurd same (others other inside)
    · rfl
  · intro other found there stray accepted
    cases held.symm.trans found
    exact placed.shown there stray accepted

/-- Apart from upserts only a row that a script puts in itself comes into a table. -/
theorem operate_other (delivery : Delivery) {operation : Operation} (indirect : ∀ row, operation ≠ .placeRow row)
    {world : World} {attachment : Attachment} (held : world.attachments[index]? = some attachment)
    (other : attachment.synchronizer.upsert? operation = none) :
    Served [] [] [] world (operate delivery operation index world).2.1 := by
  let during := world.setBorrowed true index
  let rows := attachment.rows
  have removed (index : Nat) : Served [] [] [] during ((host rows delivery).remove index during).1 :=
    .edited (.remove index) fun id pageRow member => TableRows.mem_rowsOf_remove member
  have stored : Served [] [] [] during
      (operation.perform (host rows delivery) attachment.synchronizer during).store := by
    rcases operation.cases_event attachment.synchronizer with quiet | ⟨kind, payload, event⟩ | ⟨target, rfl⟩ | ⟨row, rfl⟩
    · rw [Operation.perform_of_isQuiet _ _ quiet]
      exact .refl during
    · rw [Operation.perform_of_event _ _ event]
      cases kind with
      | upsert =>
        have untaken : attachment.synchronizer.takes payload = false := by
          by_contra taken
          have asked := Synchronizer.upsert?_eq_some_iff.mpr ⟨event, by simpa using taken⟩
          simp [other] at asked
        simp only [Effect.toStep, Synchronizer.apply, Synchronizer.applyUpsert_untaken _ _ untaken]
        exact .refl during
      | remove =>
        simp only [Effect.toStep, Synchronizer.apply]
        rcases attachment.synchronizer.applyRemove_store (host rows delivery) during payload with same | ⟨index, gone⟩
        · rw [same]
          exact .refl during
        · rw [gone]
          exact removed index
      | reset =>
        simp only [Effect.toStep, Synchronizer.apply]
        rcases attachment.synchronizer.applyReset_store (host rows delivery) during with same | cleared
        · rw [same]
          exact .refl during
        · rw [cleared]
          exact .edited .clear fun id pageRow member => TableRows.mem_rowsOf_clear member
    · simp only [Effect.toStep, Operation.perform]
      rcases attachment.synchronizer.removeNamed_store (host rows delivery) during target with same | ⟨index, gone⟩
      · rw [same]
        exact .refl during
      · rw [gone]
        exact removed index
    · exact absurd rfl (indirect row)
  obtain ⟨phase, entered, closed⟩ := operation.perform_enters attachment.synchronizer (host rows delivery) during
  rw [operate_held delivery operation held, entered]
  exact (stored.giveBack held ⟨phase, rfl, fun once => closed.mpr (Or.inl once)⟩).1

theorem hear_world (delivery : Delivery) (event : PageEvent) (index place : Nat) (role : Role) (world : World) :
    (hear delivery event index place role world).1 =
      { (operate delivery (role.operation event) index
          { world with running := (index, place) :: world.running }).2.1 with running := world.running } := by
  cases role <;> rfl

theorem hear_serves (serves : delivery.Serves) (event : PageEvent) (place : Nat) (role : Role) {world : World}
    {attachment : Attachment} (held : world.attachments[index]? = some attachment) (free : attachment.borrowed = false) :
    let after := (hear delivery event index place role world).1
    let taken := role = .applies .upsert ∧ attachment.synchronizer.takes event.payload
    ∃ services phase, Serves index event.payload (if taken then 1 else 0) services world after ∧
      (taken → Stays index services world after) ∧
      after.attachments[index]? = some { attachment with synchronizer := attachment.synchronizer.enter phase } ∧
      (phase = .closed ↔ attachment.synchronizer.phase = .closed) := by
  intro after taken
  let started : World := { world with running := (index, place) :: world.running }
  have asked := role.upsert?_operation attachment.synchronizer event
  have indirect (row : Row) : role.operation event ≠ .placeRow row := by cases role <;> exact Operation.noConfusion
  have open' : role.operation event ≠ .close := by cases role <;> exact Operation.noConfusion
  have ready : started.attachments[index]? = some attachment := held
  obtain ⟨phase, back, closed⟩ := operate_back delivery serves.moves (role.operation event) ready
  have restored {outer : List Lookup} {services : List Service} {during : World}
      (served : Served outer [] services started during) :
      Served outer [] services world { during with running := world.running } :=
    ⟨⟨served.moves.count, served.moves.attachments, served.moves.page, served.moves.lookups, rfl⟩, served.answers,
      served.looked, served.brought, served.present⟩
  simp only [after, hear_world]
  by_cases upserts : taken
  · rw [if_pos upserts] at asked
    obtain ⟨services, own, stays⟩ := operate_upsert serves ready free asked
    exact ⟨services, phase, ⟨restored own.served, by simpa [upserts] using own.count, own.payload⟩, fun _ => stays, back,
      by simpa [open'] using closed⟩
  · rw [if_neg upserts] at asked
    have served := operate_other delivery indirect ready asked
    exact ⟨[], phase, by simpa [upserts] using Serves.of_none (restored served), fun once => absurd once upserts, back,
      by simpa [open'] using closed⟩

theorem hearAll_unheard {event : PageEvent} {listeners : List Listener}
    (unheard : ∀ listener ∈ listeners, listener.name ≠ event.name) (delivery : Delivery) (index place : Nat)
    (world : World) : hearAll delivery event index place listeners world = (world, []) := by
  induction listeners generalizing place with
  | nil => rfl
  | cons listener rest ih =>
    obtain ⟨other, later⟩ := List.forall_mem_cons.mp unheard
    simp only [hearAll, other, ite_false]
    exact ih later (place + 1)

/-- An event that nothing but upserts among these listeners are for. -/
def OnlyUpserts (event : PageEvent) (listeners : List Listener) : Prop :=
  ∀ listener ∈ listeners, listener.name = event.name → listener.role = .applies .upsert

theorem OnlyUpserts.unheard {event : PageEvent} {listeners : List Listener} (only : OnlyUpserts event listeners)
    (none : listeners.countP (·.upserts event) = 0) : ∀ listener ∈ listeners, listener.name ≠ event.name := by
  intro listener member same
  have quiet := List.countP_eq_zero.mp none listener member
  simp [Listener.upserts, same, only listener member same] at quiet

theorem Stays.of_later {first second third : World} {later : List Service}
    (before : Serves index payload count services first second) (stays : Stays index later second third) :
    Stays index (services ++ later) first third := by
  obtain ⟨service, member, own, stays⟩ := stays
  exact ⟨service, List.mem_append_right services member, own, stays.of_moves before.served.moves before.served.present⟩

theorem hearAll_serves (serves : delivery.Serves) (event : PageEvent) (place : Nat) (listeners : List Listener)
    {world : World} {attachment : Attachment} (held : world.attachments[index]? = some attachment)
    (free : attachment.borrowed = false) :
    let after := (hearAll delivery event index place listeners world).1
    let count := if attachment.synchronizer.takes event.payload then listeners.countP (·.upserts event) else 0
    ∃ services, Serves index event.payload count services world after ∧
      (OnlyUpserts event listeners → 0 < count → Stays index services world after) := by
  induction listeners generalizing place world attachment with
  | nil => exact ⟨[], by simpa using .of_none (.refl world), by simp⟩
  | cons listener rest ih =>
    by_cases heard : listener.name = event.name
    · obtain ⟨services, phase, own, stays, back, closed⟩ := hear_serves serves event place listener.role held free
      obtain ⟨later, next, last⟩ := ih (place + 1) back free
      simp only [Synchronizer.takes_enter closed] at next last
      simp only [hearAll, heard, ite_true, List.countP_cons]
      refine ⟨services ++ later, ?_, fun only some => ?_⟩
      · convert own.trans next using 1
        simp only [Listener.upserts, heard]
        cases attachment.synchronizer.takes event.payload <;> by_cases upserts : listener.role = .applies .upsert <;>
          simp [upserts, Nat.add_comm]
      · have onlyRest : OnlyUpserts event rest := fun other member => only other (List.mem_cons_of_mem _ member)
        have taken : attachment.synchronizer.takes event.payload := by
          by_contra untaken
          simp [untaken] at some
        cases Nat.eq_zero_or_pos (rest.countP (·.upserts event)) with
        | inr more => exact .of_later own (last onlyRest (by simpa [taken] using more))
        | inl none =>
          have same := hearAll_unheard (onlyRest.unheard none) delivery index (place + 1)
          obtain ⟨service, member, ours, there⟩ := stays ⟨only listener List.mem_cons_self heard, taken⟩
          exact ⟨service, List.mem_append_left later member, ours, by simpa only [same] using there⟩
    · obtain ⟨services, own, stays⟩ := ih (place + 1) held free
      have passed : listener.upserts event = false := by simp [Listener.upserts, heard]
      simp only [hearAll, heard, ite_false, List.countP_cons, passed, Bool.false_eq_true, Nat.add_zero]
      exact ⟨services, own, fun only => stays fun other member => only other (List.mem_cons_of_mem _ member)⟩

end World

/-- The number of rows that an event brings to an attachment, which hears it through an open
source, or through any if closed ones deliver as well. -/
def Attachment.brings (closedDelivers : Bool) (event : PageEvent) (attachment : Attachment) : Nat :=
  if (attachment.isOpen || closedDelivers) && !attachment.borrowed && attachment.synchronizer.takes event.payload then
    attachment.listeners.countP (·.upserts event)
  else 0

namespace World

/-- What becomes of an event: the attachment of its source serves it, if there is any. -/
def ServesEvent (dispatch : Dispatch) (services : List Service) (before after : World) : Prop :=
  match before.attachments[before.target dispatch]? with
  | none => services = [] ∧ after = before
  | some attachment =>
    let count := attachment.brings before.page.closedDelivers dispatch.event
    Serves (before.target dispatch) dispatch.event.payload count services before after ∧
      (OnlyUpserts dispatch.event attachment.listeners → 0 < count →
        Stays (before.target dispatch) services before after)

/-- What becomes of an operation that a script asks for, unless it puts in a row itself. -/
def ServesAsked (operation : Operation) (index : Nat) (services : List Service) (before after : World) : Prop :=
  match before.attachments[index]?.filter (!·.borrowed) with
  | none => services = [] ∧ after = before
  | some attachment =>
    match attachment.synchronizer.upsert? operation with
    | none => services = [] ∧ Served [] [] [] before after
    | some payload => Serves index payload 1 services before after ∧ Stays index services before after

variable {delivery : Delivery} {services : List Service}

theorem ServesEvent.served {dispatch : Dispatch} {before after : World}
    (event : ServesEvent dispatch services before after) : ∃ outer, Served outer [] services before after := by
  simp only [ServesEvent] at event
  split at event
  · obtain ⟨rfl, rfl⟩ := event
    exact ⟨[], .refl after⟩
  · exact ⟨_, event.1.served⟩

theorem ServesAsked.served {operation : Operation} {index : Nat} {before after : World}
    (asked : ServesAsked operation index services before after) : ∃ outer, Served outer [] services before after := by
  simp only [ServesAsked] at asked
  split at asked
  · obtain ⟨rfl, rfl⟩ := asked
    exact ⟨[], .refl after⟩
  · split at asked
    · obtain ⟨rfl, served⟩ := asked
      exact ⟨[], served⟩
    · exact ⟨_, asked.1.served⟩

theorem deliverBy_serves (serves : delivery.Serves) (dispatch : Dispatch) (world : World) :
    ∃ services, ServesEvent dispatch services world (deliverBy delivery dispatch world).1 := by
  have unmade (world : World) (calls : List Call) : Served [] [] [] world (world.noteCalls calls) :=
    .unmade (.of_same rfl ⟨_, _, rfl⟩ List.prefix_rfl rfl) rfl rfl (fun _ _ member => member) fun _ => rfl
  cases held : world.attachments[world.target dispatch]? with
  | none => exact ⟨[], by simp [ServesEvent, held, deliverBy_missing delivery held]⟩
  | some attachment =>
    simp only [ServesEvent, held]
    cases borrowed : attachment.borrowed with
    | true =>
      refine ⟨[], ?_, by simp [Attachment.brings, borrowed]⟩
      simpa [Attachment.brings, borrowed, deliverBy_borrowed delivery held borrowed] using Serves.of_none (unmade world _)
    | false =>
      rw [deliverBy_free delivery held borrowed]
      cases hears : attachment.isOpen || world.page.closedDelivers with
      | false => exact ⟨[], by simpa [Attachment.brings, hears] using Serves.of_none (.refl world),
          by simp [Attachment.brings, hears]⟩
      | true =>
        obtain ⟨services, own, stays⟩ := hearAll_serves serves dispatch.event 0 attachment.listeners held borrowed
        exact ⟨services, by simpa [Attachment.brings, hears, borrowed] using own,
          by simpa [Attachment.brings, hears, borrowed] using stays⟩

theorem deliverWithin_serves (levels : Nat) : (deliverWithin levels).Serves := by
  induction levels with
  | zero => exact fun _ world => ⟨[], [], .refl world⟩
  | succ levels ih =>
    intro dispatch world
    obtain ⟨services, served⟩ := deliverBy_serves ih dispatch world
    obtain ⟨outer, served⟩ := served.served
    exact ⟨outer, services, served⟩

theorem deliver_serves (dispatch : Dispatch) (world : World) :
    ∃ services, ServesEvent dispatch services world (deliver dispatch world).1 :=
  deliverBy_serves (deliverWithin_serves _) dispatch world

theorem drive_serves {operation : Operation} (indirect : ∀ row, operation ≠ .placeRow row) (index : Nat)
    (world : World) :
    ∃ services, ServesAsked operation index services world (drive operation index world).2.1 := by
  simp only [ServesAsked, drive]
  cases held : world.attachments[index]? with
  | none => exact ⟨[], by simp [operate_missing _ operation held]⟩
  | some attachment =>
    cases free : attachment.borrowed with
    | true => exact ⟨[], by simp [Option.filter_some, free]⟩
    | false =>
      simp only [Option.filter_some, free, Bool.not_false, ite_true, Option.any_some, Bool.false_eq_true, ite_false]
      cases asked : attachment.synchronizer.upsert? operation with
      | none => exact ⟨[], rfl, operate_other _ indirect held asked⟩
      | some payload => exact operate_upsert (deliverWithin_serves _) held free asked

end World

end Page

end StreamTable
