import StreamTable.Page.Attach

/-! A script on a page: it attaches tables, keeps hold of the last attachment, and
uses rows and synchronizers directly. A session is run command by command. -/

namespace StreamTable.Page

inductive RowsCommand where
  | length
  | isEmpty
  | displayKey (index : Nat)
  | sortKey (index : Nat)
  | keyOf (row : Row)
  | insert (index : Nat) (row : Row)
  | replace (index : Nat) (row : Row)
  | remove (index : Nat)
  | clear

inductive Command where
  | attach (id url : String)
  /-- Attaches a table with standard settings and never lets go of it. -/
  | attachForGood (id url : String) (htmlColumns : Option HtmlColumns)
  | detach
  /-- Lets go of the attachment without ending it. -/
  | keepAlive
  | closeSource
  | event (dispatch : Dispatch)
  /-- Keeps a hold of the synchronizer of an attachment until that is given back. -/
  | borrow (index : Nat)
  | giveBack (index : Nat)
  | setPurifier (purifier : Purifier)
  | setBodies (id : String) (bodies : List (List PageRow))
  | load (id : String)
  | bindRows (id : String)
  | rows (command : RowsCommand)
  | synchronize (operation : Operation)

inductive Answer where
  | nothing
  | failed (error : AttachError)
  | attached (synchronizer : Synchronizer)
  | thrown (text : String)
  | outcome (outcome : Option Outcome)
  /-- The columns of a table and what its first cells show, body by body. -/
  | loaded (columns : Nat) (shown : List (List (Option String)))
  | bound (length columns : Nat)
  | number (value : Nat)
  | truth (value : Bool)
  | text (text : Option String)

structure Session where
  world : World
  settings : Settings
  /-- The last attachment that was made, whether or not it was ended since. -/
  latest : Option Nat := none
  /-- The attachment that the script still holds. -/
  held : Option Nat := none
  rows : Option TableRows := none

namespace Session

def phase? (session : Session) : Option Phase :=
  (session.latest.bind fun index => session.world.attachments[index]?).map (·.synchronizer.phase)

def withPage (page : Page) (session : Session) : Session :=
  { session with world := { session.world with page } }

def release (session : Session) : Session × List Record :=
  match session.held with
  | none => (session, [])
  | some index =>
    let (world, records) := session.world.detach index
    ({ session with world, held := none }, records)

def attach (id url : String) (session : Session) : Answer × Session × List Record :=
  let (result, world, records) := session.world.attach id url session.settings
  let session := { session with world }
  match result with
  | .error error => (.failed error, session, records)
  | .ok index =>
    let (session, released) := session.release
    let answer := match session.world.attachments[index]? with
      | none => .nothing
      | some attachment => .attached attachment.synchronizer
    (answer, { session with latest := some index, held := some index }, records ++ released)

def attachForGood (id url : String) (htmlColumns : Option HtmlColumns) (session : Session) :
    Answer × Session × List Record :=
  let standard : Settings := {}
  let settings := { standard with htmlColumns := htmlColumns.getD standard.htmlColumns }
  let (result, world, records) := session.world.attach id url settings
  let answer := match result with
    | .error error => .thrown error.message
    | .ok _ => .nothing
  (answer, { session with world }, records)

def load (id : String) (page : Page) : Answer :=
  match page.findTable id with
  | .error error => .failed error
  | .ok table =>
    .loaded table.columnCount (table.bodies.map fun body => body.map fun row =>
      row.firstCell?.map fun cell => cell.text page.reads true)

def bindRows (id : String) (session : Session) : Answer × Session :=
  let page := session.world.page
  match page.findTable id with
  | .error error => (.failed error, session)
  | .ok table =>
    match page.bindRows id session.settings table with
    | .error error => (.failed error, session)
    | .ok (rows, page) =>
      (.bound (rows.length page) table.columnCount, { session.withPage page with rows := some rows })

def askRows (rows : TableRows) (command : RowsCommand) (page : Page) : Answer × Page × List Record :=
  match command with
  | .length => (.number (rows.length page), page, [])
  | .isEmpty => (.truth (rows.length page == 0), page, [])
  | .displayKey index => (.text (some (rows.labelAt index page).shown), page, [])
  | .sortKey index => (.text (rows.labelAt index page).sortKey, page, [])
  | .keyOf row =>
    let (key, records) := rows.keyOf row page
    (.text (some key), page, records)
  | .insert index row => (.nothing, rows.insert index row page)
  | .replace index row => (.nothing, rows.replace index row page)
  | .remove index => (.nothing, rows.remove index page)
  | .clear => (.nothing, rows.clear page, [])

def perform (command : Command) (session : Session) : Answer × Session × List Record :=
  match command with
  | .attach id url => session.attach id url
  | .attachForGood id url htmlColumns => session.attachForGood id url htmlColumns
  | .detach => (.nothing, session.release)
  | .keepAlive => (.nothing, { session with held := none }, [])
  | .closeSource =>
    match session.held with
    | none => (.nothing, session, [])
    | some index => (.nothing, { session with world := session.world.closeSource index }, [])
  | .event dispatch =>
    let (world, records) := session.world.deliver dispatch
    (.nothing, { session with world }, records)
  | .borrow index => (.nothing, { session with world := session.world.setBorrowed true index }, [])
  | .giveBack index => (.nothing, { session with world := session.world.setBorrowed false index }, [])
  | .setPurifier purifier => (.nothing, { session with world := session.world.setPurifier purifier }, [])
  | .setBodies id bodies =>
    (.nothing, session.withPage (session.world.page.modifyTable id fun table => { table with bodies }), [])
  | .load id => (load id session.world.page, session, [])
  | .bindRows id =>
    let (answer, session) := session.bindRows id
    (answer, session, [])
  | .rows command =>
    match session.rows with
    | none => (.nothing, session, [])
    | some rows =>
      let (answer, page, records) := askRows rows command session.world.page
      (answer, session.withPage page, records)
  | .synchronize operation =>
    match session.latest with
    | none => (.nothing, session, [])
    | some index =>
      let (outcome, world, records) := session.world.drive operation index
      (.outcome outcome, { session with world }, records)

end Session

end StreamTable.Page
