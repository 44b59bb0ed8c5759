/-! What a synchronizer is doing, and what an event did to the table. -/

namespace StreamTable

/-- The phases of a connection. A closed synchronizer stays closed. -/
inductive Phase where
  | disconnected
  | connecting
  | live
  /-- The table was cleared and waits to be filled again. -/
  | empty
  | closed
  deriving DecidableEq, Repr

def Phase.name : Phase → String
  | disconnected => "Disconnected"
  | connecting => "Connecting"
  | live => "Live"
  | empty => "Empty"
  | closed => "Closed"

inductive Outcome where
  | inserted (index : Nat)
  | replaced (index : Nat)
  | appended (index : Nat)
  | removed (index : Nat)
  /-- No row was named by a removal. -/
  | notFound
  /-- The payload was unusable, or the synchronizer is closed. -/
  | dropped
  | cleared (count : Nat)
  deriving DecidableEq, Repr

def Outcome.text : Outcome → String
  | inserted index => "Inserted(" ++ toString index ++ ")"
  | replaced index => "Replaced(" ++ toString index ++ ")"
  | appended index => "Appended(" ++ toString index ++ ")"
  | removed index => "Removed(" ++ toString index ++ ")"
  | notFound => "NotFound"
  | dropped => "Dropped"
  | cleared count => "Cleared(" ++ toString count ++ ")"

end StreamTable
