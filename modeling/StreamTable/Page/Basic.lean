import StreamTable.Page.AttachError
import StreamTable.Page.Purifier
import StreamTable.Page.Table

/-! A page: what a script finds on it, and how it takes what a script does. -/

namespace StreamTable

inductive Page.Element where
  | table (table : Page.PageTable)
  | other

open Page in
structure Page where
  hasWindow : Bool := true
  hasDocument : Bool := true
  /-- The elements by their ids. -/
  elements : List (String × Element) := []
  /-- How a fragment of markup reads. -/
  rendering : String → Reading := fun fragment => ⟨fragment, fragment⟩
  /-- How a text is shown that was assigned to a cell. -/
  shownText : String → String := id
  purifier : Purifier := .undefined
  /-- What is wrong with event sources, if none can be made. -/
  sourceError : Option String := none
  /-- The event names that no listener can be added for. -/
  refusedNames : List String := []
  /-- The event names that no listener can be removed for. -/
  stuckNames : List String := []
  /-- Whether events still come through a source that was closed. -/
  closedDelivers : Bool := false
  /-- What comes in place of a body that is made, if none does. -/
  strayBody : Option String := none

namespace Page

def reads (page : Page) (content : Content) : Reading := content.reading page.rendering page.shownText

/-- What is wrong if one of these bodies is needed and there are none. -/
def bodyError? (page : Page) (bodies : List (List PageRow)) : Option AttachError :=
  if bodies.isEmpty then page.strayBody.map fun stray => .dom ("Expected <tbody> but created " ++ stray) else none

def table? (page : Page) (id : String) : Option PageTable :=
  match page.elements.lookup id with
  | some (.table table) => some table
  | _ => none

def modifyTable (id : String) (change : PageTable → PageTable) (page : Page) : Page :=
  { page with elements := page.elements.map fun
      | (other, .table table) => (other, .table (if other = id then change table else table))
      | (other, element) => (other, element) }

/-- Looks for the table of an id, through the window and its document. -/
def findTable (page : Page) (id : String) : Except AttachError PageTable :=
  if !page.hasWindow then .error .noWindow
  else if !page.hasDocument then .error .noDocument
  else
    match page.elements.lookup id with
    | none => .error (.tableNotFound id)
    | some .other => .error (.notATable id)
    | some (.table table) => .ok table

end Page

end StreamTable
