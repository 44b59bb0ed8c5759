import StreamTable.Unicode.RangeMap

/-! The White_Space property. -/

namespace StreamTable.Unicode

set_option maxRecDepth 100000 in
/-- Code points with the White_Space property. -/
def blanks : RangeSet :=
  .node (.node (.node (.node .leaf 0x9 0xD () .leaf) 0x20 0x20 () .leaf) 0x85 0x85 () (.node
  (.node .leaf 0xA0 0xA0 () .leaf) 0x1680 0x1680 () .leaf)) 0x2000 0x200A () (.node (.node
  (.node .leaf 0x2028 0x2029 () .leaf) 0x202F 0x202F () .leaf) 0x205F 0x205F () (.node .leaf
  0x3000 0x3000 () .leaf))

end StreamTable.Unicode
