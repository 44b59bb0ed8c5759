import StreamTable.Proofs.AttachmentLives
import StreamTable.Proofs.Echoes
import StreamTable.Proofs.Listening
import StreamTable.Proofs.ServedEvents

/-! From the events of a source to the operations of a synchronizer. If no two names are
the same, at most one listener hears an event, and all events together do to the table
and to the synchronizer what the operations do that they stand for. Those that come while
it is borrowed are refused. An attachment that was dropped hears nothing more, and is closed
for good unless it was borrowed just then. -/

namespace StreamTable

namespace EventNames

/-- No name stands for two kinds of events, and none for the opening of the connection. -/
def Distinct (names : EventNames) : Prop := (names.toList.map (·.1) ++ ["open"]).Nodup

instance (names : EventNames) : Decidable names.Distinct := inferInstanceAs (Decidable (List.Nodup _))

/-- What an event stands for, for a synchronizer that listens under these names. -/
def operation? (names : EventNames) (event : Page.PageEvent) : Option Operation :=
  if event.name = "open" then some .opened
  else (names.kind? event.name).map fun kind => .apply kind event.payload

end EventNames

namespace Page

namespace World

theorem hearAll_heard (delivery : Delivery) {event : PageEvent} {listeners : List Listener}
    (distinct : (listeners.map (·.name)).Nodup) {listener : Listener} (member : listener ∈ listeners)
    (heard : listener.name = event.name) (index place : Nat) (world : World) :
    ∃ own, (hearAll delivery event index place listeners world).1 =
      (hear delivery event index own listener.role world).1 := by
  induction listeners generalizing place with
  | nil => cases member
  | cons first rest ih =>
    obtain ⟨apart, distinctRest⟩ := List.nodup_cons.mp distinct
    rcases List.mem_cons.mp member with rfl | later
    · have unheard : ∀ other ∈ rest, other.name ≠ event.name := by
        intro other inside same
        exact apart (List.mem_map.mpr ⟨other, inside, same.trans heard.symm⟩)
      refine ⟨place, ?_⟩
      simp only [hearAll, heard, ite_true, hearAll_unheard unheard]
    · have passed : first.name ≠ event.name := by
        intro same
        exact apart (List.mem_map.mpr ⟨listener, later, heard.trans same.symm⟩)
      simp only [hearAll, passed, ite_false]
      exact ih distinctRest later (place + 1)

theorem map_name_listenersFor (names : EventNames) :
    (listenersFor names).map (·.name) = names.toList.map (·.1) ++ ["open"] := rfl

/-- An event that stands for nothing is not heard, and any other is heard once. -/
theorem hearAll_listenersFor {names : EventNames} (distinct : names.Distinct) (delivery : Delivery) (event : PageEvent)
    (index : Nat) (world : World) :
    match names.operation? event with
    | none => hearAll delivery event index 0 (listenersFor names) world = (world, [])
    | some operation => ∃ place, (hearAll delivery event index 0 (listenersFor names) world).1 =
        { (operate delivery operation index { world with running := (index, place) :: world.running }).2.1 with
          running := world.running } := by
  have once (listener : Listener) (member : listener ∈ listenersFor names) (heard : listener.name = event.name) :
      ∃ place, (hearAll delivery event index 0 (listenersFor names) world).1 =
        { (operate delivery (listener.role.operation event) index
            { world with running := (index, place) :: world.running }).2.1 with running := world.running } := by
    obtain ⟨place, only⟩ := hearAll_heard delivery (map_name_listenersFor names ▸ distinct) member heard index 0 world
    exact ⟨place, only.trans (hear_world delivery event index place listener.role world)⟩
  by_cases opened : event.name = "open"
  · simp only [EventNames.operation?, opened, ite_true]
    exact once ⟨"open", .opens⟩ (by simp [listenersFor]) opened.symm
  · simp only [EventNames.operation?, opened, ite_false]
    cases known : names.kind? event.name with
    | some kind =>
      obtain ⟨before, after, split, -⟩ := List.lookup_eq_some_iff.mp known
      exact once ⟨event.name, .applies kind⟩ (by simp [listenersFor, split]) rfl
    | none =>
      have unknown := List.lookup_eq_none_iff.mp known
      refine hearAll_unheard (fun listener member same => ?_) delivery index 0 world
      rcases List.mem_append.mp member with named | last
      · obtain ⟨⟨name, kind⟩, entry, rfl⟩ := List.mem_map.mp named
        have other : event.name ≠ name := by simpa using unknown _ entry
        exact other same.symm
      · rw [List.mem_singleton.mp last] at same
        exact opened same.symm

def deliverTo (index : Nat) (events : List PageEvent) (world : World) : World × List Record :=
  deliverAll deliver (events.map fun event => { event, source := some index }) world

def driveAll (index : Nat) : List Operation → World → World
  | [], world => world
  | operation :: rest, world => driveAll index rest (world.drive operation index).2.1

theorem deliverTo_cons (index : Nat) (event : PageEvent) (rest : List PageEvent) (world : World) :
    deliverTo index (event :: rest) world =
      let first := deliver { event, source := some index } world
      let later := deliverTo index rest first.1
      (later.1, first.2 ++ later.2) := rfl

theorem Moves.deliverTo (index : Nat) (events : List PageEvent) (world : World) :
    Moves world (World.deliverTo index events world).1 := .deliverAll .deliver _ world

variable {index : Nat} {names : EventNames}

/-- An event that is heard differs from its operation in the calls at most: whether a listener
runs decides how further events are refused. -/
theorem Echoes.deliver_drive (distinct : names.Distinct) {world other : World} (listens : Listens index names world)
    (echoes : Echoes id world other) {event : PageEvent} {operation : Operation}
    (asked : names.operation? event = some operation) :
    Echoes id (World.deliver { event, source := some index } world).1 (drive operation index other).2.1 := by
  have once := hearAll_listenersFor distinct World.deliver event index world
  rw [asked] at once
  obtain ⟨place, heard⟩ := once
  have also : Listens index names other := by rwa [Listens, echoes.attachments]
  rw [listens.deliver_eq rfl, heard, also.drive_eq]
  let started : World := { world with running := (index, place) :: world.running }
  have begun : Echoes id started other := ⟨echoes.page, echoes.attachments, echoes.lookups⟩
  have shields : Shields (fun _ => true) index index started := .own fun _ dropped => by cases dropped
  obtain ⟨-, alike, -⟩ := begun.operate Purifier.Covert.refl (echo_deliver .refl index) operation shields
  exact ⟨alike.page, alike.attachments, alike.lookups⟩

theorem Echoes.deliverTo_driveAll (distinct : names.Distinct) {world other : World}
    (listens : Listens index names world) (echoes : Echoes id world other) (events : List PageEvent) :
    Echoes id (World.deliverTo index events world).1 (driveAll index (events.filterMap names.operation?) other) := by
  induction events generalizing world other with
  | nil => exact echoes
  | cons event rest ih =>
    have after := listens.of_moves (.deliver { event, source := some index } world)
    simp only [deliverTo_cons, List.filterMap_cons]
    cases asked : names.operation? event with
    | none =>
      have once := hearAll_listenersFor distinct World.deliver event index world
      rw [asked] at once
      have unheard : World.deliver { event, source := some index } world = (world, []) :=
        (listens.deliver_eq rfl).trans once
      simp only [unheard]
      exact ih listens echoes
    | some operation =>
      simp only [driveAll]
      exact ih after (echoes.deliver_drive distinct listens asked)

theorem deliverTo_borrowed {world : World} {attachment : Attachment}
    (held : world.attachments[index]? = some attachment) (borrowed : attachment.borrowed) (events : List PageEvent) :
    ∃ calls records, deliverTo index events world = (world.noteCalls calls, records) ∧
      ∀ record ∈ records, record.isRefusal := by
  induction events generalizing world with
  | nil => exact ⟨[], [], by simp [deliverTo, deliverAll, noteCalls], by simp⟩
  | cons event rest ih =>
    let said := world.told attachment index event
    have first : deliver { event, source := some index } world = (world.noteCalls said.1, said.2) := by
      rw [deliver_eq]
      exact deliverBy_borrowed deliver held borrowed
    have still : (world.noteCalls said.1).attachments[index]? = some attachment := held
    obtain ⟨calls, records, later, refused⟩ := ih still
    refine ⟨said.1 ++ calls, said.2 ++ records, ?_, ?_⟩
    · simp only [deliverTo_cons, first, later]
      simp [noteCalls]
    · exact List.forall_mem_append.mpr ⟨told_recorded attachment index event world, refused⟩

/-- An attachment that no event reaches: its source is silent once it is closed, or nobody
listens to it. -/
def Deaf (index : Nat) (world : World) : Prop :=
  ∃ attachment, world.attachments[index]? = some attachment ∧
    (attachment.listeners = [] ∨ attachment.isOpen = false ∧ world.page.closedDelivers = false)

theorem Deaf.deliverTo {world : World} (deaf : Deaf index world) (events : List PageEvent) :
    World.deliverTo index events world = (world, []) := by
  obtain ⟨attachment, held, unheard⟩ := deaf
  have nothing (event : PageEvent) : World.deliver { event, source := some index } world = (world, []) := by
    rw [deliver_eq]
    simp only [deliverBy, target, Option.getD_some, held]
    rcases unheard with none | ⟨shut, silent⟩
    · simp [none, refusals, noteCalls, hearAll]
    · simp [shut, silent]
  induction events with
  | nil => rfl
  | cons event rest ih => simp only [deliverTo_cons, nothing, ih, List.append_nil]

end World

namespace Session

variable {session : Session} {index : Nat}

/-- Nothing that a script does opens a synchronizer that is closed. -/
theorem closed_for_good {attachment : Attachment} (commands : List Command)
    (present : session.world.attachments[index]? = some attachment) (closed : attachment.synchronizer.phase = .closed) :
    ∃ last, (session.after commands).world.attachments[index]? = some last ∧ last.synchronizer.phase = .closed := by
  induction commands generalizing session attachment with
  | nil => exact ⟨attachment, present, closed⟩
  | cons command rest ih =>
    have takes := session.takes command present
    cases dropped : Turn.drops index ⟨session, command, (session.perform command).2.1⟩ with
    | false =>
      obtain ⟨next, found, goes⟩ := takes.keeps dropped
      exact ih found (goes.closed closed)
    | true => exact ih (takes.ends dropped).after (Attachment.ended_closed closed _)

theorem listens_release {names : EventNames} (listens : World.Listens index names session.world)
    (other : session.held ≠ some index) : World.Listens index names session.release.1.world := by
  obtain ⟨attachment, held, rest⟩ := listens
  refine ⟨attachment, ?_, rest⟩
  simp only [release]
  split
  · exact held
  next ended holds =>
    have different : ended ≠ index := fun same => other (holds.trans (congrArg some same))
    simp only [World.detach]
    split
    · exact held
    · simpa [List.getElem?_set_ne different] using held

end Session

/-- An attachment whose table and synchronizer do what the events of its source stand for,
save those that come while the synchronizer is borrowed. From when the source is closed,
should it be silent then, or from when the attachment is dropped, both stay as they are. -/
structure FollowsSource (index : Nat) (names : EventNames) (world : World) : Prop where
  page (events : List PageEvent) : (world.deliverTo index events).1.page =
    (World.driveAll index (events.filterMap names.operation?) world).page
  attachments (events : List PageEvent) : (world.deliverTo index events).1.attachments =
    (World.driveAll index (events.filterMap names.operation?) world).attachments
  refused (during : World) (attachment : Attachment) (events : List PageEvent) :
    during.attachments[index]? = some attachment → attachment.borrowed →
      ∃ calls records, during.deliverTo index events = (during.noteCalls calls, records) ∧
        ∀ record ∈ records, record.isRefusal
  shut (events later : List PageEvent) : world.page.closedDelivers = false →
    let left := (world.deliverTo index events).1.closeSource index
    left.deliverTo index later = (left, [])
  dropped (events later : List PageEvent) (borrowed : Bool) :
    let before := (world.deliverTo index events).1.setBorrowed borrowed index
    let left := (before.detach index).1
    left.deliverTo index later = (left, []) ∧ left.page = before.page ∧
      ∃ attachment ended, before.attachments[index]? = some attachment ∧ left.attachments[index]? = some ended ∧
        ended.synchronizer = if borrowed then attachment.synchronizer else attachment.synchronizer.close
  closed (events : List PageEvent) (session : Session) (commands : List Command) :
    session.world = ((world.deliverTo index events).1.detach index).1 →
    ∃ last, (session.after commands).world.attachments[index]? = some last ∧ last.synchronizer.phase = .closed

theorem World.Listens.followsSource {index : Nat} {names : EventNames} {world : World}
    (listens : Listens index names world) (distinct : names.Distinct) : FollowsSource index names world where
  page events := (Echoes.deliverTo_driveAll distinct listens ⟨rfl, rfl, by simp⟩ events).page.symm
  attachments events := (Echoes.deliverTo_driveAll distinct listens ⟨rfl, rfl, by simp⟩ events).attachments.symm
  refused _ _ events held borrowed := deliverTo_borrowed held borrowed events
  shut events later silent := by
    have moves := Moves.deliverTo index events world
    obtain ⟨attachment, held, -⟩ := listens.of_moves moves
    obtain ⟨elements, purifier, page⟩ := moves.page
    refine Deaf.deliverTo ⟨{ attachment with isOpen := false }, ?_, Or.inr ⟨rfl, ?_⟩⟩ later
    · simp [closeSource, held]
    · simp only [closeSource, page, silent]
  dropped events later borrowed := by
    obtain ⟨attachment, held, -⟩ := listens.of_moves (.deliverTo index events world)
    let before := (world.deliverTo index events).1.setBorrowed borrowed index
    have present : before.attachments[index]? = some { attachment with borrowed } := by
      simp [before, getElem?_setBorrowed, held]
    have found := getElem?_detach present
    exact ⟨Deaf.deliverTo ⟨_, found, Or.inl rfl⟩ later, by rw [detach_held present], _, _, present, found, rfl⟩
  closed events session commands same := by
    obtain ⟨attachment, held, -, free, -⟩ := listens.of_moves (.deliverTo index events world)
    have found := getElem?_detach held
    rw [← same] at found
    exact Session.closed_for_good commands found (Attachment.closed_ended free _)

/-- Events reach the table as they were dispatched, from when a table was attached, and also
if an earlier attachment of the session was dropped for it. -/
theorem attach_follows_source (id url : String) {settings : Settings} {world : World} {index : Nat}
    (distinct : settings.eventNames.Distinct) (made : (world.attach id url settings).1 = .ok index) :
    FollowsSource index settings.eventNames (world.attach id url settings).2.1 ∧
      ∀ session : Session, session.Valid → session.world = world → session.settings = settings →
        FollowsSource index settings.eventNames (session.attach id url).2.1.world := by
  have listens := World.listens_of_attach made
  refine ⟨listens.followsSource distinct, fun session valid same settled => ?_⟩
  subst same settled
  refine World.Listens.followsSource ?_ distinct
  have attaches := session.attaches id url
  generalize (session.attach id url).2.1 = after at attaches ⊢
  cases attaches with
  | failed failed => rw [failed] at made; cases made
  | @done world new records table done found completed =>
    rw [done] at made listens
    cases made
    let attached : Session := { session with world }
    have listening : World.Listens index session.settings.eventNames attached.world := listens
    exact Session.listens_release listening (valid.unheld completed)

def causingWorld (event : PageEvent) (closedDelivers : Bool := false) : World where
  page := {
    elements := [("clients", .table { header := some [1] })]
    purifier := .object (.function fun fragment => ⟨[{ event }], .returned (.string fragment)⟩)
    closedDelivers }

def causingSession (event : PageEvent) (closedDelivers : Bool := false) : Session :=
  (({ world := causingWorld event closedDelivers, settings := {} } : Session).attach "clients" "/events").2.1

def World.shownClients (world : World) : List String :=
  ((TableRows.ofSettings "clients" {}).labels world.page).map (·.shown)

def mixedEvents : List PageEvent :=
  [⟨"open", .none⟩, ⟨"connect", .message (.string "[\"ann\"]")⟩, ⟨"connect", .message (.number 7)⟩, ⟨"ping", .none⟩,
    ⟨"connect", .message (.string "[\"bob\"]")⟩, ⟨"disconnect", .message (.string "ann")⟩]

/-- Data that is no text counts as empty, the name that nothing listens for as nothing, and
the resets that come in the middle of upserts are refused. -/
theorem attach_follows_source_clients :
    let world := causingWorld ⟨"error", .none⟩
    let after := (causingSession ⟨"error", .none⟩).world
    EventNames.Distinct {} ∧ (world.attach "clients" "/events" {}).1 = .ok 0 ∧
      mixedEvents.filterMap (EventNames.operation? {}) =
        [.opened, .apply .upsert "[\"ann\"]", .apply .upsert "", .apply .upsert "[\"bob\"]", .apply .remove "ann"] ∧
      (after.deliverTo 0 mixedEvents).1.shownClients = ["bob"] ∧
      FollowsSource 0 {} after := by
  intro world after
  have distinct : EventNames.Distinct {} := by decide
  have made : (world.attach "clients" "/events" {}).1 = .ok 0 := by decide +kernel
  have valid : Session.Valid { world, settings := {} } := by simp [Session.Valid]
  exact ⟨distinct, made, by decide +kernel, by decide +kernel,
    (attach_follows_source "clients" "/events" distinct made).2 _ valid rfl rfl⟩

/-- A reset that comes in the middle of an upsert clears nothing, though its operation would.
A synchronizer that is borrowed when its attachment is dropped is not closed; and a source
that is closed may still be given events. -/
theorem events_unapplied :
    let reset : PageEvent := ⟨"error", .none⟩
    let ann : PageEvent := ⟨"connect", .message (.string "[\"ann\"]")⟩
    let attached := (causingSession reset).world
    (attached.deliverTo 0 [ann]).1.shownClients = ["ann"] ∧
      (World.driveAll 0 ([ann, reset].filterMap (EventNames.operation? {})) attached).shownClients = [] ∧
      ((causingSession reset).after [.borrow 0, .detach]).world.attachments.map (·.synchronizer.phase) = [.connecting] ∧
      (((causingSession reset true).world.closeSource 0).deliverTo 0 [ann]).1.shownClients = ["ann"] := by
  decide +kernel

end Page

end StreamTable
