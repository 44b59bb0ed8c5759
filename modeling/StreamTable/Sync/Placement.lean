import StreamTable.Key.Collator

/-! Where a row belongs among rows in order. One pass looks at the rows until one
sorts after the new row. A row that ties with it and has its identity is the one
to replace; else the new row goes before the first row that the total order
puts after it. -/

namespace StreamTable

inductive Placement where
  | replace (index : Nat)
  | insert (index : Nat)
  | append
  deriving DecidableEq, Repr

namespace Placement

/-- Looks at the rows from an index on. The slot is the first index found so far
at which the new row may be put. -/
def seek (key identity : String) : Nat → Option Nat → List String → Placement
  | _, none, [] => append
  | _, some slot, [] => insert slot
  | index, slot, shown :: rest =>
    match Key.order key shown with
    | .gt => seek key identity (index + 1) slot rest
    | .lt => insert (slot.getD index)
    | .eq =>
      if Key.identity shown = identity then replace index
      else
        let slot := if slot.isNone && Key.orderTotal key shown == .lt then some index else slot
        seek key identity (index + 1) slot rest

/-- The place of a key among the texts that rows show. -/
def among (key : String) (shown : List String) : Placement := seek key (Key.identity key) 0 none shown

end Placement

end StreamTable
