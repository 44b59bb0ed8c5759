import StreamTable.Page.TableRows
import StreamTable.Sync.Operation

/-! Tables that follow streams. An attachment joins a synchronizer over the rows of a table
to the listeners of an event source. While an event is handled, or a script says so, the
synchronizer is borrowed, and further events of the same source are refused. Those of
other sources, which the page's sanitizer may cause as well, are handled in between. -/

namespace StreamTable.Page

inductive Role where
  | applies (kind : EventKind)
  | opens
  deriving DecidableEq, Repr

structure Listener where
  name : String
  role : Role
  deriving DecidableEq, Repr

structure Attachment where
  rows : TableRows
  synchronizer : Synchronizer
  listeners : List Listener := []
  /-- The names of listeners that could not be removed. They do nothing more. -/
  stuck : List String := []
  /-- Whether the source was not closed. -/
  isOpen : Bool := true
  /-- Whether the synchronizer is borrowed, by a listener or by a script. -/
  borrowed : Bool := false

inductive Call where
  | newSource (url : String)
  | closeSource
  | addListener (name : String)
  | removeListener (name : String)
  /-- A listener that was still running when its event came again. -/
  | recursive (name : String)
  deriving DecidableEq, Repr

def Call.text : Call → String
  | newSource url => "new EventSource " ++ url
  | closeSource => "EventSource.close"
  | addListener name => "addEventListener " ++ name
  | removeListener name => "removeEventListener " ++ name
  | recursive name => "recursive call of the " ++ name ++ " listener"

/-- A fragment that was to be cleaned, and the sanitizer that was on the page then. -/
structure Lookup where
  fragment : String
  found : Purifier

/-- A page, all attachments ever made on it, the calls that it saw and how often its
sanitizer was looked up. -/
structure World where
  page : Page
  attachments : List Attachment := []
  calls : List Call := []
  lookups : List Lookup := []
  /-- The listeners that run, by attachment and place. -/
  running : List (Nat × Nat) := []

namespace World

def noteCalls (calls : List Call) (world : World) : World := { world with calls := world.calls ++ calls }

def noteLookup (fragment : String) (world : World) : World :=
  { world with lookups := world.lookups ++ [⟨fragment, world.page.purifier⟩] }

def setPurifier (purifier : Purifier) (world : World) : World :=
  { world with page := { world.page with purifier } }

def setBorrowed (borrowed : Bool) (index : Nat) (world : World) : World :=
  { world with attachments := world.attachments.modify index fun held => { held with borrowed } }

/-- The attachment at whose source an event is dispatched. -/
def target (dispatch : Dispatch) (world : World) : Nat := dispatch.source.getD (world.attachments.length - 1)

abbrev Delivery := Dispatch → World → World × List Record

def deliverAll (delivery : Delivery) : List Dispatch → World → World × List Record
  | [], world => (world, [])
  | dispatch :: rest, world =>
    let (world, records) := delivery dispatch world
    let (world, later) := deliverAll delivery rest world
    (world, records ++ later)

/-- Cleans a fragment with the page's sanitizer, which is looked up each time. Without
one it stays as it is; with one that fails it becomes empty. -/
def cleanFragment (delivery : Delivery) (fragment : String) (world : World) : String × World × List Record :=
  let found := world.page.purifier
  let world := world.noteLookup fragment
  match found.function? with
  | none => (fragment, world, [.insertedUnsanitized])
  | some call =>
    let cleaning := call fragment
    let (world, records) := deliverAll delivery cleaning.events world
    let world := match found.replacement? fragment with
      | some left => world.setPurifier left
      | none => world
    match cleaning.reply with
    | .returned (.string safe) => (safe, world, records)
    | .returned value => ("", world, records ++ [.sanitizedToNonText value])
    | .thrown value => ("", world, records ++ [.sanitizerThrew value])

def cleanCells (delivery : Delivery) : List Cell → World → List Cell × World × List Record
  | [], world => ([], world, [])
  | .text text :: rest, world =>
    let (cells, world, records) := cleanCells delivery rest world
    (.text text :: cells, world, records)
  | .html fragment :: rest, world =>
    let (safe, world, records) := cleanFragment delivery fragment world
    let (cells, world, later) := cleanCells delivery rest world
    (.html safe :: cells, world, records ++ later)

/-- The host of an attachment's rows. Cleaning a row may deliver events. -/
def host (rows : TableRows) (delivery : Delivery) : Host World where
  labels world := rows.labels world.page
  keyOf row world := rows.keyOf row world.page
  clean row world :=
    let (cells, world, records) := cleanCells delivery row.cells world
    ({ row with cells }, world, records)
  insert index row world :=
    let (page, records) := rows.insert index row world.page
    ({ world with page }, records)
  replace index row world :=
    let (page, records) := rows.replace index row world.page
    ({ world with page }, records)
  remove index world :=
    let (page, records) := rows.remove index world.page
    ({ world with page }, records)
  clear world := { world with page := rows.clear world.page }

/-- Asks something of the synchronizer of an attachment, which is borrowed meanwhile. -/
def operate (delivery : Delivery) (operation : Operation) (index : Nat) (world : World) :
    Option Outcome × World × List Record :=
  match world.attachments[index]? with
  | none => (none, world, [])
  | some attachment =>
    let step := operation.perform (host attachment.rows delivery) attachment.synchronizer (world.setBorrowed true index)
    let attachments := step.store.attachments.set index { attachment with synchronizer := step.synchronizer }
    (step.outcome, { step.store with attachments }, step.records)

/-- Runs the listener at a place among the listeners of an attachment. -/
def hear (delivery : Delivery) (event : PageEvent) (index place : Nat) (role : Role) (world : World) :
    World × List Record :=
  let running := world.running
  let world := { world with running := (index, place) :: running }
  match role with
  | .opens =>
    let (_, world, records) := world.operate delivery .opened index
    ({ world with running }, records)
  | .applies kind =>
    let (outcome, world, records) := world.operate delivery (.apply kind event.payload) index
    ({ world with running }, records ++ outcome.toList.map (.handled kind))

def hearAll (delivery : Delivery) (event : PageEvent) (index : Nat) :
    Nat → List Listener → World → World × List Record
  | _, [], world => (world, [])
  | place, listener :: rest, world =>
    if listener.name = event.name then
      let (world, records) := hear delivery event index place listener.role world
      let (world, later) := hearAll delivery event index (place + 1) rest world
      (world, records ++ later)
    else hearAll delivery event index (place + 1) rest world

/-- What becomes of an event for a borrowed synchronizer, listener by listener.
One that runs is not called at all. -/
def refusals (running : List (Nat × Nat)) (event : PageEvent) (index : Nat) :
    Nat → List Listener → List Call × List Record
  | _, [] => ([], [])
  | place, listener :: rest =>
    let (calls, records) := refusals running event index (place + 1) rest
    if listener.name ≠ event.name then (calls, records)
    else if running.contains (index, place) then (.recursive listener.name :: calls, records)
    else match listener.role with
      | .applies kind => (calls, .reentrantEvent kind :: records)
      | .opens => (calls, .reentrantOpen :: records)

/-- Delivers an event to the attachment of its source. If that handles it, what is caused
meanwhile is delivered in another way. -/
def deliverBy (delivery : Delivery) : Delivery := fun dispatch world =>
  let index := world.target dispatch
  match world.attachments[index]? with
  | none => (world, [])
  | some attachment =>
    if !(attachment.isOpen || world.page.closedDelivers) then (world, [])
    else if attachment.borrowed then
      let (calls, records) := refusals world.running dispatch.event index 0 attachment.listeners
      (world.noteCalls calls, records)
    else hearAll delivery dispatch.event index 0 attachment.listeners world

/-- Delivers events within events, so many levels deep. -/
def deliverWithin : Nat → Delivery
  | 0 => fun _ world => (world, [])
  | levels + 1 => deliverBy (deliverWithin levels)

/-- Delivers an event. Each attachment that handles one is borrowed meanwhile, so below as
many levels as there are attachments none is left to handle more. -/
def deliver : Delivery := fun dispatch world => deliverWithin (world.attachments.length + 1) dispatch world

/-- Asks something of the synchronizer of an attachment, apart from any event. One that is
borrowed cannot be asked. -/
def drive (operation : Operation) (index : Nat) (world : World) : Option Outcome × World × List Record :=
  if world.attachments[index]?.any (·.borrowed) then (none, world, [])
  else world.operate (deliverWithin world.attachments.length) operation index

end World

end StreamTable.Page
