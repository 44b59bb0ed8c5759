import StreamTable.Row.HtmlColumns
import StreamTable.Stream.Event
import StreamTable.Stream.Target

/-! How a table follows a stream. The defaults suit a list of connected clients. -/

namespace StreamTable

structure Settings where
  htmlColumns : HtmlColumns := .standard
  eventNames : EventNames := {}
  targetChain : TargetChain := {}
  /-- The data entry of a first cell that stands for its text in removals. -/
  sortKeyAttribute : String := "sortKey"
  /-- The data entry of a row that holds its key as it was received. -/
  identityAttribute : String := "key"
  deriving DecidableEq

end StreamTable
