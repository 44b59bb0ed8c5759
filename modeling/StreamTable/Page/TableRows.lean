import StreamTable.Page.Basic
import StreamTable.Page.Bodies
import StreamTable.Settings
import StreamTable.Sync.Host

/-! The rows of a table on a page, in document order over all its bodies. A row is
rendered before it is placed; if that fails, the table stays as it is and a
record says so. -/

namespace StreamTable.Page

/-- Which table, and the names of the data entries that its rows use. -/
structure TableRows where
  id : String
  sortKeyAttribute : String
  identityAttribute : String
  deriving DecidableEq, Repr

namespace TableRows

def ofSettings (id : String) (settings : Settings) : TableRows :=
  ⟨id, settings.sortKeyAttribute, settings.identityAttribute⟩

def bodies (rows : TableRows) (page : Page) : List (List PageRow) :=
  ((page.table? rows.id).map (·.bodies)).getD []

def setBodies (rows : TableRows) (bodies : List (List PageRow)) (page : Page) : Page :=
  page.modifyTable rows.id fun table => { table with bodies }

def length (rows : TableRows) (page : Page) : Nat := Bodies.length (rows.bodies page)

def label (rows : TableRows) (page : Page) (row : PageRow) : Label :=
  match row.firstCell? with
  | none => ⟨"", none⟩
  | some cell => ⟨cell.text page.reads true, cell.data.lookup rows.sortKeyAttribute⟩

/-- The label at an index; an empty one where there is no row. -/
def labelAt (rows : TableRows) (index : Nat) (page : Page) : Label :=
  ((Bodies.row? (rows.bodies page) index).map (rows.label page)).getD ⟨"", none⟩

def labels (rows : TableRows) (page : Page) : List Label :=
  (List.range (rows.length page)).map fun index => rows.labelAt index page

/-- A row that is in no table yet. -/
def render (rows : TableRows) (row : Row) : Except ScriptValue PageRow :=
  match Dataset.nameError? rows.identityAttribute with
  | some thrown => .error thrown
  | none => .ok {
      cells := row.cells.map fun
        | .text text => { content := .text text }
        | .html fragment => { content := .html fragment }
      data := [(rows.identityAttribute, row.key)] }

/-- What a row shows, read off its rendering before it is placed. -/
def keyOf (rows : TableRows) (row : Row) (page : Page) : String × List Record :=
  match rows.render row with
  | .error thrown => (row.displayKey, [.renderFailed thrown])
  | .ok rendered =>
    match rendered.firstCell? with
    | none => ("", [])
    | some cell => (cell.text page.reads false, [])

def insert (rows : TableRows) (index : Nat) (row : Row) (page : Page) : Page × List Record :=
  match rows.render row with
  | .error thrown => (page, [.insertFailed index thrown])
  | .ok rendered =>
    match page.bodyError? (rows.bodies page) with
    | some error => (page, [.insertFailed index (.string error.message)])
    | none => (rows.setBodies (Bodies.insert index rendered (rows.bodies page)) page, [])

def replace (rows : TableRows) (index : Nat) (row : Row) (page : Page) : Page × List Record :=
  if rows.length page ≤ index then
    (page, [.replaceFailed index (.string "row index out of bounds")])
  else
    match rows.render row with
    | .error thrown => (page, [.replaceFailed index thrown])
    | .ok rendered =>
      match Bodies.replace? index rendered (rows.bodies page) with
      | none => (page, [])
      | some bodies => (rows.setBodies bodies page, [])

def remove (rows : TableRows) (index : Nat) (page : Page) : Page × List Record :=
  match Bodies.remove? index (rows.bodies page) with
  | none => (page, [.removeFailed index])
  | some bodies => (rows.setBodies bodies page, [])

def clear (rows : TableRows) (page : Page) : Page := rows.setBodies (Bodies.clear (rows.bodies page)) page

/-- The host of the rows of a table, with a sanitizer that leaves the page alone. -/
def host (rows : TableRows) (sanitizer : Option (String → String)) : Host Page where
  labels := rows.labels
  keyOf := rows.keyOf
  clean row page := (row.clean sanitizer, page, [])
  insert := rows.insert
  replace := rows.replace
  remove := rows.remove
  clear := rows.clear

end TableRows

/-- Gives a table that was found a body if it has none, so that rows can be put in. -/
def bindRows (page : Page) (id : String) (settings : Settings) (table : PageTable) :
    Except AttachError (TableRows × Page) :=
  if !table.inDocument then .error .noDocument
  else
    match page.bodyError? table.bodies with
    | some error => .error error
    | none => .ok (.ofSettings id settings, page.modifyTable id PageTable.withBody)

end StreamTable.Page
