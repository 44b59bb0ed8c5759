import StreamTable.Page.Dataset

/-! A table on a page, as far as it can be read: its header, and in its bodies
the rows and their cells. How markup reads is for the page to say, and how a text
is shown that was assigned, since either may read differently once it is shown. -/

namespace StreamTable.Page

/-- The text of a cell that is shown on the page, and the text in it. -/
structure Reading where
  shown : String
  content : String
  deriving DecidableEq, Repr

inductive Content where
  /-- A fragment of markup that was assigned. -/
  | html (fragment : String)
  /-- A text that was assigned. -/
  | text (assigned : String)
  /-- All else, by how it reads. -/
  | plain (reading : Reading)
  deriving DecidableEq, Repr

/-- How content reads, given how markup does and how an assigned text is shown. -/
def Content.reading (rendering : String → Reading) (content : Content) (shownText : String → String := id) : Reading :=
  match content with
  | html fragment => rendering fragment
  | text assigned => ⟨shownText assigned, assigned⟩
  | plain reading => reading

structure PageCell where
  content : Content
  data : Dataset := []
  deriving DecidableEq, Repr

/-- The text of a cell of a row. Only a row in a table is shown; the text in a
cell stands in for a shown text that is empty. -/
def PageCell.text (reads : Content → Reading) (inTable : Bool) (cell : PageCell) : String :=
  let reading := reads cell.content
  let shown := if inTable then reading.shown else reading.content
  if shown.isEmpty then reading.content else shown

structure PageRow where
  cells : List PageCell
  data : Dataset := []
  deriving DecidableEq, Repr

def PageRow.firstCell? (row : PageRow) : Option PageCell := row.cells.head?

structure PageTable where
  /-- The number of cells of each header row, if there is a header. -/
  header : Option (List Nat) := none
  bodies : List (List PageRow) := []
  inDocument : Bool := true
  deriving DecidableEq, Repr

namespace PageTable

def columnCount (table : PageTable) : Nat := ((table.header.getD []).head?).getD 0

/-- Gives a table without bodies an empty one. -/
def withBody (table : PageTable) : PageTable :=
  if table.bodies.isEmpty then { table with bodies := [[]] } else table

end PageTable

end StreamTable.Page
