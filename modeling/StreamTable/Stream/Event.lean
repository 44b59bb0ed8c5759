/-! The named events of a stream and what they do to a table. -/

namespace StreamTable

inductive EventKind where
  | upsert
  | remove
  | reset
  deriving DecidableEq, Repr

def EventKind.name : EventKind → String
  | upsert => "Upsert"
  | remove => "Remove"
  | reset => "Reset"

structure EventNames where
  upsert : String := "connect"
  remove : String := "disconnect"
  reset : String := "error"
  deriving DecidableEq, Repr

namespace EventNames

def toList (names : EventNames) : List (String × EventKind) :=
  [(names.upsert, .upsert), (names.remove, .remove), (names.reset, .reset)]

/-- The kind of events of a name. Kinds that share it are tried in order. -/
def kind? (names : EventNames) (name : String) : Option EventKind := names.toList.lookup name

end EventNames

end StreamTable
