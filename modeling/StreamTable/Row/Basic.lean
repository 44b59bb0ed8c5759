import StreamTable.Json.Writer
import StreamTable.Markup.TextContent
import StreamTable.Row.HtmlColumns

/-! Table rows. A row is built from the values of a payload, one cell for each
column; cells of the HTML columns may be cleaned on the way. -/

namespace StreamTable

inductive Cell where
  | text (text : String)
  | html (fragment : String)
  deriving DecidableEq, Repr

/-- What a cell shows as text. -/
def Cell.textContent : Cell → String
  | text shown => shown
  | html fragment => Markup.textContent fragment

/-- The text of a value in a cell: nothing for null, a string itself, and the
JSON text of all else. -/
def Json.Value.cellText : Json.Value → String
  | .null => ""
  | .string text => text
  | value => value.text

/-- A row and the text of the value that named it, as it was received. -/
structure Row where
  key : String
  cells : List Cell
  deriving DecidableEq, Repr

namespace Row

/-- The cell of a column, as it was received. A missing value reads as null. -/
def cellOf (values : List Json.Value) (htmlColumns : HtmlColumns) (column : Nat) : Cell :=
  let text := (values.getD column .null).cellText
  if htmlColumns.contains column then .html text else .text text

def verbatim (values : List Json.Value) (columns : Nat) (htmlColumns : HtmlColumns) : Row where
  key := (values.getD 0 .null).cellText
  cells := (List.range columns).map (cellOf values htmlColumns)

def mapHtml (change : String → String) (row : Row) : Row :=
  { row with cells := row.cells.map fun
      | .text text => .text text
      | .html fragment => .html (change fragment) }

/-- Cleans a row, if there is a sanitizer. -/
def clean (sanitizer : Option (String → String)) (row : Row) : Row :=
  match sanitizer with
  | none => row
  | some sanitize => row.mapHtml sanitize

def build (values : List Json.Value) (columns : Nat) (htmlColumns : HtmlColumns)
    (sanitizer : Option (String → String)) : Row :=
  (verbatim values columns htmlColumns).clean sanitizer

/-- What the first cell shows; nothing if there is none. -/
def displayKey (row : Row) : String :=
  match row.cells with
  | [] => ""
  | cell :: _ => cell.textContent

end Row

end StreamTable
