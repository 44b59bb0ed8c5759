import StreamTable.Proofs.Echoes
import StreamTable.Proofs.RefusedEvents

/-! Events within events. While an upsert is handled, the calls of the sanitizer may cause
any events for the same source. Each of them is refused, listener by listener, and the
page goes on as if the sanitizer had replied the same and caused none of them. -/

namespace StreamTable.Page

def Cleaning.silenced (keep : Dispatch → Bool) (cleaning : Cleaning) : Cleaning :=
  { cleaning with events := cleaning.events.filter keep }

mutual

def SanitizeMethod.silenced (keep : Dispatch → Bool) : SanitizeMethod → SanitizeMethod
  | .unreadable => .unreadable
  | .notFunction => .notFunction
  | .function call => .function fun fragment => (call fragment).silenced keep
  | .replacing call left =>
    .replacing (fun fragment => (call fragment).silenced keep) fun fragment => (left fragment).silenced keep

/-- A sanitizer that replies the same and causes only the events to keep, and leaves only
such sanitizers. -/
def Purifier.silenced (keep : Dispatch → Bool) : Purifier → Purifier
  | .undefined => .undefined
  | .null => .null
  | .unreadable => .unreadable
  | .primitive => .primitive
  | .object sanitize => .object (sanitize.silenced keep)

end

namespace Purifier

variable (keep : Dispatch → Bool)

theorem silenced_function? (purifier : Purifier) :
    (purifier.silenced keep).function? = purifier.function?.map fun call fragment => (call fragment).silenced keep := by
  match purifier with
  | undefined | null | unreadable | primitive => rfl
  | object .unreadable | object .notFunction | object (.function _) | object (.replacing _ _) => rfl

theorem silenced_replacement? (purifier : Purifier) (fragment : String) :
    (purifier.silenced keep).replacement? fragment = (purifier.replacement? fragment).map (silenced keep) := by
  match purifier with
  | undefined | null | unreadable | primitive => rfl
  | object .unreadable | object .notFunction | object (.function _) | object (.replacing _ _) => rfl

theorem covert_silenced : Covert keep (silenced keep) where
  reply? purifier fragment := by
    simp only [Purifier.reply?, silenced_function?, Option.map_map]
    rfl
  caused purifier fragment := by
    simp only [Purifier.caused, silenced_function?, Option.map_map]
    cases purifier.function? <;> rfl
  replacement? := silenced_replacement? keep

end Purifier

def silenced (keep : Dispatch → Bool) (page : Page) : Page := page.withPurifier (page.purifier.silenced keep)

def Lookup.silenced (keep : Dispatch → Bool) (lookup : Lookup) : Lookup :=
  { lookup with found := lookup.found.silenced keep }

namespace World

/-- The events that are not for the source of an attachment. -/
def elsewhere (index : Nat) (world : World) (dispatch : Dispatch) : Bool := world.target dispatch ≠ index

def silenced (keep : Dispatch → Bool) (world : World) : World :=
  { world with
    page := world.page.silenced keep
    lookups := world.lookups.map (·.silenced keep) }

theorem echoes_silenced (keep : Dispatch → Bool) (world : World) :
    Echoes (Purifier.silenced keep) world (world.silenced keep) := ⟨rfl, rfl, rfl⟩

end World

/-- What an attachment is given to do: an event, or what a script asks of its synchronizer. -/
inductive Request where
  | event (dispatch : Dispatch)
  | ask (operation : Operation)

namespace Request

def IsFor (index : Nat) (world : World) : Request → Prop
  | event dispatch => world.target dispatch = index
  | ask _ => True

def perform (index : Nat) (world : World) : Request → Option Outcome × World × List Record
  | event dispatch => (none, World.deliver dispatch world)
  | ask operation => World.drive operation index world

def performAll (index : Nat) : List Request → World → List (Option Outcome) × World × List Record
  | [], world => ([], world, [])
  | request :: rest, world =>
    let (outcome, world, records) := request.perform index world
    let (outcomes, world, later) := performAll index rest world
    (outcome :: outcomes, world, records ++ later)

variable {index : Nat} {world : World}

theorem moves_perform (index : Nat) (world : World) (request : Request) :
    world.Moves (request.perform index world).2.1 := by
  cases request with
  | event dispatch => exact World.Moves.deliver dispatch world
  | ask operation => exact .drive operation index world

theorem moves_performAll (index : Nat) (requests : List Request) (world : World) :
    world.Moves (performAll index requests world).2.1 := by
  induction requests generalizing world with
  | nil => exact .refl world
  | cons request rest ih => exact (request.moves_perform index world).trans (ih _)

theorem IsFor.of_moves {after : World} {request : Request} (isFor : request.IsFor index world)
    (moves : world.Moves after) : request.IsFor index after := by
  cases request with
  | event dispatch => exact (moves.target dispatch).trans isFor
  | ask operation => trivial

end Request

namespace World

theorem Echoes.request {keep : Dispatch → Bool} {change : Purifier → Purifier} (covert : Purifier.Covert keep change)
    {index : Nat} {world other : World} (aimed : ∀ dispatch, keep dispatch = false → world.target dispatch = index)
    (echoes : Echoes change world other) {request : Request} (isFor : request.IsFor index world) :
    (request.perform index other).1 = (request.perform index world).1 ∧
      Alike change (request.perform index world).2 (request.perform index other).2 := by
  have count : other.attachments.length = world.attachments.length := congrArg List.length echoes.attachments
  cases request with
  | event dispatch =>
    refine ⟨rfl, ?_⟩
    simp only [Request.perform, deliver, count]
    exact echoes.deliverBy covert (echo_deliverWithin covert index _) dispatch (isFor.symm ▸ Shields.own aimed)
  | ask operation =>
    simp only [Request.perform, drive, echoes.attachments]
    split
    · exact ⟨rfl, echoes, rfl⟩
    · exact echoes.operate covert (echo_deliverWithin covert index _) operation (.own aimed)

theorem Echoes.requests {keep : Dispatch → Bool} {change : Purifier → Purifier} (covert : Purifier.Covert keep change)
    {index : Nat} {world other : World} (aimed : ∀ dispatch, keep dispatch = false → world.target dispatch = index)
    (echoes : Echoes change world other) {requests : List Request}
    (isFor : ∀ request ∈ requests, request.IsFor index world) :
    (Request.performAll index requests other).1 = (Request.performAll index requests world).1 ∧
      Alike change (Request.performAll index requests world).2 (Request.performAll index requests other).2 := by
  induction requests generalizing world other with
  | nil => exact ⟨rfl, echoes, rfl⟩
  | cons request rest ih =>
    obtain ⟨own, others⟩ := List.forall_mem_cons.mp isFor
    have moves := request.moves_perform index world
    obtain ⟨outcome, alike⟩ := echoes.request covert aimed own
    obtain ⟨outcomes, alikeAfter⟩ := ih (fun dispatch dropped => (moves.target dispatch).trans (aimed dispatch dropped))
      alike.1 fun other member => (others other member).of_moves moves
    exact ⟨by simp only [Request.performAll, outcome, outcomes], alikeAfter.append alike.2⟩

/-- A run of requests that goes as if no call of a sanitizer had caused any event for their
attachment: the tables come out the same, so do the attachments with their synchronizers,
the outcomes, what was looked up, and all that is recorded save that events were refused. -/
structure Undisturbed (index : Nat) (requests : List Request) (world : World) (keep : Dispatch → Bool) : Prop where
  page : (Request.performAll index requests world).2.1.page.silenced keep =
    (Request.performAll index requests (world.silenced keep)).2.1.page
  attachments : (Request.performAll index requests world).2.1.attachments =
    (Request.performAll index requests (world.silenced keep)).2.1.attachments
  lookups : (Request.performAll index requests world).2.1.lookups.map (·.silenced keep) =
    (Request.performAll index requests (world.silenced keep)).2.1.lookups
  outcomes : (Request.performAll index requests world).1 = (Request.performAll index requests (world.silenced keep)).1
  records : Record.unrefused (Request.performAll index requests world).2.2 =
    Record.unrefused (Request.performAll index requests (world.silenced keep)).2.2

end World

namespace Request

def isEvent : Request → Bool
  | event _ => true
  | ask _ => false

/-- A world in which an attachment has begun to do an upsert that it was asked for. -/
def begun (index : Nat) (world : World) : Request → World
  | event _ => { world with running := (index, 0) :: world.running }.setBorrowed true index
  | ask _ => world.setBorrowed true index

/-- A request that comes to all listeners of its attachment, or to its synchronizer. -/
def Reaches (index : Nat) (names : EventNames) (world : World) : Request → Prop
  | event dispatch => World.deliver dispatch world =
      World.hearAll World.deliver dispatch.event index 0 (World.listenersFor names) world
  | ask operation => World.drive operation index world = World.operate World.deliver operation index world

end Request

namespace World

/-- A request that its attachment handles, and no event for it that is caused meanwhile. -/
structure HandledAlone (index : Nat) (names : EventNames) (request : Request) (before : World) : Prop where
  reaches : request.Reaches index names before
  busy : Busy index names request.isEvent (request.begun index before)
  nested (other : Dispatch) (during : World) : Busy index names request.isEvent during → during.target other = index →
    deliver other during = (during.noteCalls (turnedAway names request.isEvent other.event).1,
      (turnedAway names request.isEvent other.event).2)
  told : TurnsAway (turnedAway names request.isEvent) index before (request.perform index before).2.1
    (request.perform index before).2.2

theorem Listens.handledAlone {index : Nat} {names : EventNames} {world : World} (listens : Listens index names world)
    (idle : ∀ place, (index, place) ∉ world.running) {request : Request} (isFor : request.IsFor index world) :
    HandledAlone index names request world := by
  have runs : Runs index false world.running := by
    intro place
    simp [idle]
  have busy (heard : Bool) (started : World) (same : started.attachments = world.attachments)
      (runs : Runs index heard started.running) : Busy index names heard (started.setBorrowed true index) := by
    obtain ⟨attachment, held, delivers, -, listeners⟩ := listens
    exact ⟨⟨{ attachment with borrowed := true }, by simp [getElem?_setBorrowed, same, held], delivers, rfl, listeners⟩,
      runs⟩
  have nested (heard : Bool) (other : Dispatch) (during : World) (busy : Busy index names heard during)
      (aimed : during.target other = index) :
      deliver other during =
        (during.noteCalls (turnedAway names heard other.event).1, (turnedAway names heard other.event).2) :=
    busy.deliverBy_eq _ aimed
  cases request with
  | event dispatch =>
    have heard := listens.deliver_eq isFor
    refine ⟨heard, busy true _ rfl ?_, nested true, ?_⟩
    · intro place
      simp [idle]
    · simp only [Request.perform, heard]
      rw [World.deliver_eq]
      exact TurnsAway.hearAll .deliver listens idle dispatch.event
  | ask operation =>
    have driven := listens.drive_eq operation
    refine ⟨driven, busy false world rfl runs, nested false, ?_⟩
    simp only [Request.perform, driven]
    rw [World.deliver_eq]
    exact TurnsAway.operate .deliver listens runs operation

/-- Events that the sanitizer's calls cause for an attachment disturb nothing that it does.
Over any requests a page goes as if they had not been caused; each of them is refused and
changes nothing, and every request after that reaches the attachment again. -/
theorem nested_events_refused (index : Nat) (world : World) (requests : List Request)
    (isFor : ∀ request ∈ requests, request.IsFor index world) :
    Undisturbed index requests world (world.elsewhere index) ∧
      ∀ names, Listens index names world → (∀ place, (index, place) ∉ world.running) →
        ∀ earlier request later, requests = earlier ++ request :: later →
          HandledAlone index names request (Request.performAll index earlier world).2.1 := by
  have aimed (dispatch : Dispatch) (dropped : world.elsewhere index dispatch = false) :
      world.target dispatch = index := by
    simpa [elsewhere] using dropped
  obtain ⟨outcomes, alike, records⟩ :=
    (echoes_silenced (world.elsewhere index) world).requests (Purifier.covert_silenced _) aimed isFor
  refine ⟨⟨alike.page.symm, alike.attachments.symm, alike.lookups.symm, outcomes.symm, records.symm⟩, ?_⟩
  intro names listens idle earlier request later split
  have moves := Request.moves_performAll index earlier world
  have own : request.IsFor index world := isFor request (by simp [split])
  exact (listens.of_moves moves).handledAlone (fun place => moves.running ▸ idle place) (own.of_moves moves)

def restlessPage : Page where
  elements := [("clients", .table { header := some [1] })]
  purifier := .object <| .function fun fragment => {
    events := ([⟨"open", .none⟩, ⟨"error", .none⟩, ⟨"connect", .message (.string "[\"eve\"]")⟩, ⟨"disconnect", .none⟩] :
      List PageEvent)
    reply := .returned (.string fragment) }

def arrivals : List Request :=
  [.event { event := ⟨"connect", .message (.string "[\"bob\"]")⟩ }, .ask (.upsert "[\"ann\"]")]

theorem nested_events_refused_clients :
    let world := (World.attach "clients" "/events" {} { page := restlessPage }).2.1
    let after := Request.performAll 0 arrivals world
    Listens 0 {} world ∧
      ((TableRows.ofSettings "clients" {}).labels after.2.1.page).map (·.shown) = ["ann", "bob"] ∧
      after.1 = [none, some (.inserted 0)] ∧
      Record.refusals after.2.2 = [.reentrantOpen, .reentrantEvent .reset, .reentrantEvent .remove,
        .reentrantOpen, .reentrantEvent .reset, .reentrantEvent .upsert, .reentrantEvent .remove] ∧
      Undisturbed 0 arrivals world (world.elsewhere 0) ∧
      HandledAlone 0 {} (.ask (.upsert "[\"ann\"]")) (Request.performAll 0 (arrivals.take 1) world).2.1 := by
  intro world after
  have made : (World.attach "clients" "/events" {} { page := restlessPage }).1 = .ok 0 := by decide +kernel
  have listens : Listens 0 {} world := listens_of_attach made
  have idle : ∀ place, (0, place) ∉ world.running := by
    have none : world.running = [] := by decide +kernel
    simp [none]
  have isFor : ∀ request ∈ arrivals, request.IsFor 0 world := by
    simp only [arrivals, List.mem_cons, List.not_mem_nil, or_false, forall_eq_or_imp, forall_eq]
    exact ⟨(show world.target _ = 0 by decide +kernel), trivial⟩
  obtain ⟨undisturbed, alone⟩ := nested_events_refused 0 world arrivals isFor
  exact ⟨listens, by decide +kernel, by decide +kernel, by decide +kernel, undisturbed,
    alone {} listens idle _ _ [] rfl⟩

end World

end StreamTable.Page
