import StreamTable.Sync.Operation

/-! Rows held in memory. Nothing can go wrong with them, so they leave no records. -/

namespace StreamTable

structure Entry where
  row : Row
  sortKey : Option String := none
  deriving DecidableEq, Repr

def Entry.label (entry : Entry) : Label := ⟨entry.row.displayKey, entry.sortKey⟩

/-- The host of a list of rows. A placed row has no sort key. -/
def memoryHost (sanitizer : Option (String → String)) : Host (List Entry) where
  labels := List.map Entry.label
  keyOf row _ := (row.displayKey, [])
  clean row entries := (row.clean sanitizer, entries, [])
  insert index row entries := (entries.insertIdx index ⟨row, none⟩, [])
  replace index row entries := (entries.set index ⟨row, none⟩, [])
  remove index entries := (entries.eraseIdx index, [])
  clear _ := []

end StreamTable
