import StreamTable.Record
import StreamTable.Row.Basic

/-! What a synchronizer needs to know of the rows that it keeps in order. The
rows may be held in memory or on a page; either is a host for one synchronizer. -/

namespace StreamTable

/-- How a row is found: by the text that its first cell shows, or by a sort key
that was given to that cell. -/
structure Label where
  shown : String
  sortKey : Option String
  deriving DecidableEq, Repr

/-- The text that a removal must name: the sort key, unless it is empty. -/
def Label.effective (label : Label) : String :=
  ((label.sortKey).filter fun key => !key.isEmpty).getD label.shown

/-- Operations on the rows that a value of `σ` holds. Each may leave records. -/
structure Host (σ : Type) where
  /-- The rows' labels in order. -/
  labels : σ → List Label
  /-- What a row will show once it is placed. -/
  keyOf : Row → σ → String × List Record
  /-- Cleans the HTML cells of a row. -/
  clean : Row → σ → Row × σ × List Record
  /-- Puts a row before the one at an index, or after all rows. -/
  insert : Nat → Row → σ → σ × List Record
  replace : Nat → Row → σ → σ × List Record
  remove : Nat → σ → σ × List Record
  clear : σ → σ

end StreamTable
