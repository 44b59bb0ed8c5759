import StreamTable.Proofs.Listening
import StreamTable.Proofs.ServedEvents

/-! What comes of events for an attachment that is busy with another. They are refused,
listener by listener, as long as it is borrowed; so as far as the calls of a sanitizer
cause events for that attachment alone, each of them leaves what is told of it, in order. -/

namespace StreamTable

/-- Of all operations only upserts clean a row. -/
theorem Operation.perform_still {σ : Type} (host : Host σ) {clean : Row → σ → Row × σ × List Record}
    {synchronizer : Synchronizer} (operation : Operation)
    (other : ∀ payload, operation.event? synchronizer.settings ≠ some (.upsert, payload)) (store : σ) :
    operation.perform { host with clean } synchronizer store = operation.perform host synchronizer store := by
  rcases operation.cases_event synchronizer with quiet | ⟨kind, payload, event⟩ | ⟨target, rfl⟩ | ⟨row, rfl⟩
  · rw [perform_of_isQuiet _ _ quiet, perform_of_isQuiet _ _ quiet]
  · rw [perform_of_event _ _ event, perform_of_event _ _ event]
    cases kind with
    | upsert => exact absurd event (other payload)
    | remove => simp only [Synchronizer.apply, Synchronizer.applyRemove, Synchronizer.removeNamed]
    | reset => simp only [Synchronizer.apply, Synchronizer.applyReset]
  · simp only [perform, Synchronizer.removeNamed]
  · simp only [perform, Synchronizer.placeRow]

namespace Page

namespace TableRows

variable (rows : TableRows) (index : Nat) (row : Row) (page : Page)

theorem refusals_insert : Record.refusals (rows.insert index row page).2 = [] := by
  simp only [insert]
  split
  · rfl
  · split <;> rfl

theorem refusals_replace : Record.refusals (rows.replace index row page).2 = [] := by
  simp only [replace]
  split
  · rfl
  · split
    · rfl
    · split <;> rfl

theorem refusals_remove : Record.refusals (rows.remove index page).2 = [] := by
  simp only [remove]
  split <;> rfl

end TableRows

def Lookup.caused (lookup : Lookup) : List Dispatch := lookup.found.caused lookup.fragment

namespace World

/-- What comes of an event while an upsert of the same source is handled, or was asked for by
a script. The listener that runs is not called again; every other one refuses it. -/
def turnedAway (names : EventNames) (heard : Bool) (event : PageEvent) : List Call × List Record :=
  (if heard ∧ event.name = names.upsert then [.recursive names.upsert] else [],
    (if ¬ heard ∧ event.name = names.upsert then [.reentrantEvent .upsert] else []) ++
      (if event.name = names.remove then [.reentrantEvent .remove] else []) ++
      (if event.name = names.reset then [.reentrantEvent .reset] else []) ++
      if event.name = "open" then [.reentrantOpen] else [])

/-- Of the listeners of an attachment, the first runs if it is the one that handles the
upsert, and no other does. -/
def Runs (index : Nat) (heard : Bool) (running : List (Nat × Nat)) : Prop :=
  ∀ place, (index, place) ∈ running ↔ heard ∧ place = 0

theorem refusals_listenersFor {index : Nat} {heard : Bool} {running : List (Nat × Nat)}
    (runs : Runs index heard running) (names : EventNames) (event : PageEvent) :
    refusals running event index 0 (listenersFor names) = turnedAway names heard event := by
  have known (place : Nat) : (index, place) ∈ running ↔ heard ∧ place = 0 := runs place
  simp only [turnedAway, listenersFor, EventNames.toList, List.map_cons, List.map_nil, List.cons_append, List.nil_append,
    refusals, ne_eq, ite_not, @eq_comm _ event.name, List.contains_iff_mem, known]
  cases heard <;> by_cases upsert : names.upsert = event.name <;> by_cases remove : names.remove = event.name <;>
    by_cases reset : names.reset = event.name <;> by_cases opened : "open" = event.name <;>
    simp [upsert, remove, reset, opened]

structure Busy (index : Nat) (names : EventNames) (heard : Bool) (world : World) : Prop where
  held : ∃ attachment, world.attachments[index]? = some attachment ∧ attachment.isOpen ∧ attachment.borrowed ∧
    attachment.listeners = listenersFor names
  runs : Runs index heard world.running

namespace Busy

variable {index : Nat} {names : EventNames} {heard : Bool} {world : World}

theorem of_moves {after : World} (busy : Busy index names heard world) (moves : Moves world after) :
    Busy index names heard after where
  held := by
    obtain ⟨attachment, held, delivers, borrowed, listeners⟩ := busy.held
    obtain ⟨next, found, phase, rfl, -⟩ := moves.attachments index attachment held
    exact ⟨_, found, delivers, borrowed, listeners⟩
  runs := moves.running ▸ busy.runs

theorem deliverBy_eq (busy : Busy index names heard world) (delivery : Delivery) {dispatch : Dispatch}
    (aimed : world.target dispatch = index) :
    deliverBy delivery dispatch world =
      (world.noteCalls (turnedAway names heard dispatch.event).1, (turnedAway names heard dispatch.event).2) := by
  obtain ⟨attachment, held, delivers, borrowed, listeners⟩ := busy.held
  subst aimed
  simp only [deliverBy_borrowed delivery held borrowed, told, delivers, Bool.true_or, ite_true, listeners,
    refusals_listenersFor busy.runs]

theorem deliverAll_eq (busy : Busy index names heard world) (delivery : Delivery) {events : List Dispatch}
    (aimed : ∀ dispatch ∈ events, world.target dispatch = index) :
    deliverAll (deliverBy delivery) events world =
      (world.noteCalls (events.flatMap fun dispatch => (turnedAway names heard dispatch.event).1),
        events.flatMap fun dispatch => (turnedAway names heard dispatch.event).2) := by
  induction events generalizing world with
  | nil => simp [deliverAll, noteCalls]
  | cons dispatch rest ih =>
    obtain ⟨first, later⟩ := List.forall_mem_cons.mp aimed
    have still : Busy index names heard (world.noteCalls (turnedAway names heard dispatch.event).1) :=
      ⟨busy.held, busy.runs⟩
    simp only [deliverAll, busy.deliverBy_eq delivery first]
    rw [ih still later]
    simp [noteCalls]

end Busy

theorem isRefusal_turnedAway (names : EventNames) (heard : Bool) (event : PageEvent) :
    ∀ record ∈ (turnedAway names heard event).2, record.isRefusal := by
  simp only [turnedAway, List.mem_append]
  grind [Record.isRefusal]

/-- Between two worlds each event that a call of the sanitizer caused was refused, in order:
it left the calls and records that are told of it, and nothing else did. This is said of
the lookups that caused events for one attachment only. -/
def TurnsAway (told : PageEvent → List Call × List Record) (index : Nat) (before after : World)
    (records : List Record) : Prop :=
  ∃ made : List Lookup, after.lookups = before.lookups ++ made ∧
    ((∀ lookup ∈ made, ∀ dispatch ∈ lookup.caused, before.target dispatch = index) →
      after.calls = before.calls ++ (made.flatMap (·.caused)).flatMap (fun dispatch => (told dispatch.event).1) ∧
      Record.refusals records = (made.flatMap (·.caused)).flatMap fun dispatch => (told dispatch.event).2)

namespace TurnsAway

variable {told : PageEvent → List Call × List Record} {index : Nat} {names : EventNames} {heard : Bool}
  {delivery : Delivery}

theorem of_same {before after : World} {records : List Record} (lookups : after.lookups = before.lookups)
    (calls : after.calls = before.calls) (own : Record.refusals records = []) :
    TurnsAway told index before after records :=
  ⟨[], by simp [lookups], fun _ => ⟨by simp [calls], by simpa using own⟩⟩

theorem trans {first second third : World} {earlier later : List Record} (moves : Moves first second)
    (before : TurnsAway told index first second earlier) (after : TurnsAway told index second third later) :
    TurnsAway told index first third (earlier ++ later) := by
  obtain ⟨made, lookups, refused⟩ := before
  obtain ⟨more, lookupsAfter, refusedAfter⟩ := after
  refine ⟨made ++ more, by rw [lookupsAfter, lookups, List.append_assoc], fun aimed => ?_⟩
  obtain ⟨calls, refusals⟩ := refused fun lookup member => aimed lookup (List.mem_append_left more member)
  obtain ⟨callsAfter, refusalsAfter⟩ := refusedAfter fun lookup member dispatch caused =>
    (moves.target dispatch).trans (aimed lookup (List.mem_append_right made member) dispatch caused)
  constructor
  · rw [callsAfter, calls, List.flatMap_append, List.flatMap_append, List.append_assoc]
  · rw [Record.refusals_append, refusals, refusalsAfter, List.flatMap_append, List.flatMap_append]

theorem cleanFragment (moves : delivery.Moves) (fragment : String) {world : World}
    (busy : Busy index names heard world) :
    let result := World.cleanFragment (World.deliverBy delivery) fragment world
    TurnsAway (turnedAway names heard) index world result.2.1 result.2.2 := by
  intro result
  let lookup : Lookup := ⟨fragment, world.page.purifier⟩
  have noted : Busy index names heard (world.noteLookup fragment) := ⟨busy.held, busy.runs⟩
  by_cases aimed : ∀ dispatch ∈ lookup.caused, world.target dispatch = index
  · have refused := noted.deliverAll_eq delivery aimed
    have reached : result = _ := cleanFragment_eq (World.deliverBy delivery) fragment world
    simp only [reached]
    refine ⟨[lookup], ?_, fun _ => ⟨?_, ?_⟩⟩
    · simp only [leave, setPurifier, lookup, Lookup.caused] at refused ⊢
      rw [refused]
      rfl
    · simp only [leave, setPurifier, lookup, Lookup.caused] at refused ⊢
      rw [refused]
      simp [noteCalls, noteLookup]
    · simp only [lookup, Lookup.caused] at refused ⊢
      rw [refused, Record.refusals_append, Purifier.refusals_answer, List.append_nil, Record.refusals_of_isRefusal]
      · simp
      · simp only [List.mem_flatMap]
        rintro record ⟨dispatch, -, member⟩
        exact isRefusal_turnedAway names heard dispatch.event record member
  · have later : (world.noteLookup fragment).lookups <+: result.2.1.lookups := by
      simp only [result, cleanFragment_eq]
      exact (Moves.deliverAll (.deliverBy moves) _ _).lookups
    obtain ⟨more, looked⟩ := later
    refine ⟨lookup :: more, by rw [← looked]; simp [noteLookup, lookup], fun all => ?_⟩
    exact absurd (all lookup List.mem_cons_self) aimed

theorem cleanCells (moves : delivery.Moves) (cells : List Cell) {world : World} (busy : Busy index names heard world) :
    let result := World.cleanCells (World.deliverBy delivery) cells world
    TurnsAway (turnedAway names heard) index world result.2.1 result.2.2 := by
  induction cells generalizing world with
  | nil => exact of_same rfl rfl rfl
  | cons cell rest ih =>
    cases cell with
    | text shown => exact ih busy
    | html fragment =>
      have moved := Moves.cleanFragment (Moves.deliverBy moves) fragment world
      exact (cleanFragment moves fragment busy).trans moved (ih (busy.of_moves moved))

theorem host_keyOf (rows : TableRows) (delivery : Delivery) (row : Row) (world : World) :
    Record.refusals ((World.host rows delivery).keyOf row world).2 = [] := by
  simp only [World.host, TableRows.keyOf]
  split
  · rfl
  · split <;> rfl

theorem host (moves : delivery.Moves) (rows : TableRows) :
    (World.host rows (World.deliverBy delivery)).Tells fun before after records =>
      Busy index names heard before →
        TurnsAway (turnedAway names heard) index before after records ∧ Moves before after where
  remark world _ own _ := ⟨of_same rfl rfl own, .refl world⟩
  trans before after busy := by
    obtain ⟨first, moved⟩ := before busy
    obtain ⟨second, movedOn⟩ := after (busy.of_moves moved)
    exact ⟨first.trans moved second, moved.trans movedOn⟩
  keyOf := host_keyOf rows _
  clean row world busy := ⟨cleanCells moves row.cells busy, .cleanCells (.deliverBy moves) row.cells world⟩
  insert index row world _ := ⟨of_same rfl rfl (rows.refusals_insert index row world.page), .edited (.insert index)⟩
  replace index row world _ := ⟨of_same rfl rfl (rows.refusals_replace index row world.page), .edited (.replace index)⟩
  remove index world _ := ⟨of_same rfl rfl (rows.refusals_remove index world.page), .edited (.remove index)⟩
  clear _ _ := ⟨of_same rfl rfl rfl, .edited .clear⟩

theorem still (rows : TableRows) (delivery : Delivery) :
    ({ World.host rows delivery with clean := fun row world => (row, world, []) } : Host World).Tells
      fun before after records =>
        after.lookups = before.lookups ∧ after.calls = before.calls ∧ Record.refusals records = [] where
  remark _ _ own := ⟨rfl, rfl, own⟩
  trans before after :=
    ⟨after.1.trans before.1, after.2.1.trans before.2.1, by rw [Record.refusals_append, before.2.2, after.2.2]; rfl⟩
  keyOf := host_keyOf rows delivery
  clean _ _ := ⟨rfl, rfl, rfl⟩
  insert index row world := ⟨rfl, rfl, rows.refusals_insert index row world.page⟩
  replace index row world := ⟨rfl, rfl, rows.refusals_replace index row world.page⟩
  remove index world := ⟨rfl, rfl, rows.refusals_remove index world.page⟩
  clear _ := ⟨rfl, rfl, rfl⟩

theorem operate (moves : delivery.Moves) {world : World} (listens : Listens index names world)
    (runs : Runs index heard world.running) (operation : Operation) :
    let result := World.operate (World.deliverBy delivery) operation index world
    TurnsAway (turnedAway names heard) index world result.2.1 result.2.2 := by
  obtain ⟨attachment, held, delivers, -, listeners⟩ := listens
  have busy : Busy index names heard (world.setBorrowed true index) :=
    ⟨⟨{ attachment with borrowed := true }, by simp [getElem?_setBorrowed, held], delivers, rfl, listeners⟩, runs⟩
  obtain ⟨made, looked, refused⟩ :=
    ((host moves attachment.rows).perform operation attachment.synchronizer (world.setBorrowed true index) busy).1
  simp only [operate_held _ operation held]
  exact ⟨made, looked, fun aimed => refused (by simpa [target, setBorrowed] using aimed)⟩

/-- Only an upsert looks the sanitizer up, so nothing comes in between any other event. -/
theorem hear_other (told : PageEvent → List Call × List Record) (delivery : Delivery) (event : PageEvent) (place : Nat)
    {role : Role} (other : role ≠ .applies .upsert) (world : World) :
    let result := World.hear delivery event index place role world
    TurnsAway told index world result.1 result.2 := by
  have operated (operation : Operation)
      (settings : ∀ settings payload, operation.event? settings ≠ some (.upsert, payload)) (started : World) :
      let result := World.operate delivery operation index started
      result.2.1.lookups = started.lookups ∧ result.2.1.calls = started.calls ∧ Record.refusals result.2.2 = [] := by
    cases held : started.attachments[index]? with
    | none => simp [operate_missing _ operation held, Record.refusals]
    | some attachment =>
      simp only [operate_held _ operation held]
      rw [← operation.perform_still (World.host attachment.rows delivery) (settings _)]
      exact (still attachment.rows delivery).perform operation attachment.synchronizer (started.setBorrowed true index)
  cases role with
  | opens =>
    obtain ⟨lookups, calls, records⟩ := operated .opened (fun _ _ => nofun) { world with running := _ }
    exact of_same lookups calls records
  | applies kind =>
    have upsert (settings : Settings) (payload : String) :
        (Operation.apply kind event.payload).event? settings ≠ some (.upsert, payload) := by
      rintro same
      cases same
      exact other rfl
    obtain ⟨lookups, calls, records⟩ := operated (.apply kind event.payload) upsert { world with running := _ }
    refine of_same lookups calls ?_
    simp only [World.hear, Record.refusals_append, Record.refusals_handled, List.append_nil]
    exact records

theorem hear_upsert (moves : delivery.Moves) {world : World} (listens : Listens index names world)
    (idle : ∀ place, (index, place) ∉ world.running) (event : PageEvent) :
    let result := World.hear (World.deliverBy delivery) event index 0 (.applies .upsert) world
    TurnsAway (turnedAway names true) index world result.1 result.2 := by
  let started : World := { world with running := (index, 0) :: world.running }
  have runs : Runs index true started.running := by
    intro place
    simp [started, idle]
  have ready : Listens index names started := listens
  obtain ⟨made, looked, refused⟩ := operate moves ready runs (.apply .upsert event.payload)
  refine ⟨made, looked, fun aimed => ?_⟩
  obtain ⟨calls, records⟩ := refused aimed
  refine ⟨calls, ?_⟩
  simp only [World.hear, Record.refusals_append, Record.refusals_handled, List.append_nil]
  exact records

theorem hearAll_other (told : PageEvent → List Call × List Record) (moves : delivery.Moves) (event : PageEvent)
    (place : Nat) (listeners : List Listener) (others : ∀ listener ∈ listeners, listener.role ≠ .applies .upsert)
    (world : World) :
    let result := World.hearAll delivery event index place listeners world
    TurnsAway told index world result.1 result.2 := by
  induction listeners generalizing place world with
  | nil => exact of_same rfl rfl rfl
  | cons listener rest ih =>
    obtain ⟨other, later⟩ := List.forall_mem_cons.mp others
    simp only [World.hearAll]
    split
    · exact (hear_other told delivery event place other world).trans (.hear moves event index place listener.role world)
        (ih (place + 1) later _)
    · exact ih (place + 1) later world

theorem hearAll (moves : delivery.Moves) {world : World} (listens : Listens index names world)
    (idle : ∀ place, (index, place) ∉ world.running) (event : PageEvent) :
    let result := World.hearAll (World.deliverBy delivery) event index 0 (listenersFor names) world
    TurnsAway (turnedAway names true) index world result.1 result.2 := by
  obtain ⟨rest, split, others⟩ : ∃ rest, listenersFor names = ⟨names.upsert, .applies .upsert⟩ :: rest ∧
      ∀ listener ∈ rest, listener.role ≠ .applies .upsert := ⟨_, rfl, by simp⟩
  have nested := Moves.deliverBy moves
  simp only [split, World.hearAll]
  split
  · exact (hear_upsert moves listens idle event).trans (.hear nested event index 0 _ world)
      (hearAll_other _ nested event 1 rest others _)
  · exact hearAll_other _ nested event 1 rest others world

end TurnsAway

end World

end Page

end StreamTable
