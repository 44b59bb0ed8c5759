import StreamTable.Page.World

/-! Attaching tables to streams and detaching them. An attachment that cannot be
completed is undone, so no source is left open and no listener behind. -/

namespace StreamTable.Page

/-- What is left of an attachment that ends: its source is closed and its listeners are
removed, save for those under names that stick, and so is its synchronizer closed, unless
that is borrowed. The table keeps its rows. -/
def Attachment.ended (stuckNames : List String) (attachment : Attachment) : Attachment :=
  { attachment with
    synchronizer := if attachment.borrowed then attachment.synchronizer else attachment.synchronizer.close
    listeners := []
    stuck := attachment.stuck ++ (attachment.listeners.map (·.name)).filter stuckNames.contains
    isOpen := false }

namespace World

def closeSource (index : Nat) (world : World) : World :=
  { world with
    attachments := world.attachments.modify index fun held => { held with isOpen := false }
    calls := world.calls ++ [.closeSource] }

/-- Ends an attachment, for good or bad, and records what could not be done. -/
def detach (index : Nat) (world : World) : World × List Record :=
  match world.attachments[index]? with
  | none => (world, [])
  | some attachment =>
    let names := attachment.listeners.map (·.name)
    let stuck := names.filter world.page.stuckNames.contains
    ({ world with
        attachments := world.attachments.set index (attachment.ended world.page.stuckNames)
        calls := world.calls ++ .closeSource :: names.map .removeListener },
      (if attachment.borrowed then [.droppedBorrowed] else []) ++
        .detached :: stuck.map (fun name => .removalFailed name (.error "TypeError" name)) ++ [.listenersDestroyed])

def listenersFor (names : EventNames) : List Listener :=
  names.toList.map (fun (name, kind) => ⟨name, .applies kind⟩) ++ [⟨"open", .opens⟩]

/-- Adds listeners up to the first that the page refuses. -/
def listen (page : Page) : List Listener → List Listener × List Call × List Record × Option ScriptValue
  | [] => ([], [], [], none)
  | listener :: rest =>
    if page.refusedNames.contains listener.name then
      ([], [.addListener listener.name], [], some (.error "TypeError" listener.name))
    else
      let (added, calls, records, thrown) := listen page rest
      (listener :: added, .addListener listener.name :: calls, .listening listener.name :: records, thrown)

def openSource (url : String) (rows : TableRows) (synchronizer : Synchronizer) (world : World) :
    Except AttachError Nat × World × List Record :=
  let world := world.noteCalls [.newSource url]
  match world.page.sourceError with
  | some message => (.error (.stream (ScriptValue.error "SyntaxError" message).description), world, [])
  | none =>
    let index := world.attachments.length
    let (listeners, calls, records, thrown) :=
      listen world.page (listenersFor synchronizer.settings.eventNames)
    let attachment : Attachment := { rows, synchronizer := synchronizer.connecting, listeners }
    let world := { world.noteCalls calls with attachments := world.attachments ++ [attachment] }
    match thrown with
    | none => (.ok index, world, records)
    | some thrown =>
      let (world, undone) := world.detach index
      (.error (.listener thrown.description), world, records ++ undone)

/-- Attaches a table, and says which attachment it is. -/
def tryAttach (id url : String) (settings : Settings) (world : World) :
    Except AttachError Nat × World × List Record :=
  match world.page.findTable id with
  | .error error => (.error error, world, [])
  | .ok table =>
    let columns := table.columnCount
    let headless := if columns = 0 then [.headerMissing id] else []
    match world.page.bindRows id settings table with
    | .error error => (.error error, world, headless)
    | .ok (rows, page) =>
      let unready :=
        if !page.purifier.isLoaded && !settings.htmlColumns.isEmpty then [.purifierMissing] else []
      let (result, world, records) := openSource url rows { columns, settings } { world with page }
      (result, world, headless ++ unready ++ records)

def attach (id url : String) (settings : Settings) (world : World) :
    Except AttachError Nat × World × List Record :=
  let (result, world, records) := world.tryAttach id url settings
  let failed := match result with
    | .ok _ => []
    | .error error => [.attachFailed error]
  (result, world, .attachBegun id url :: records ++ failed)

end World

end StreamTable.Page
