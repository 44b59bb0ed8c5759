import StreamTable.Unicode.RangeMap

/-! What a mapping table says about a whole range of code points. -/

namespace StreamTable.Unicode

inductive Image where
  /-- The range maps in order to the code points from `start` on. -/
  | consecutive (start : Nat)
  /-- Every second code point, the first included, maps to its successor. -/
  | alternating
  /-- Each code point of the range maps to these. -/
  | sequence (points : List Nat)

def Image.points (image : Image) (first point : Nat) : List Nat :=
  match image with
  | consecutive start => [start + (point - first)]
  | alternating => [if (point - first) % 2 = 0 then point + 1 else point]
  | sequence points => points

/-- The image of a character, which is itself where the table is silent. -/
def RangeMap.imageOf (table : RangeMap Image) (c : Char) : List Char :=
  match table.find? c.toNat with
  | none => [c]
  | some (first, image) => (image.points first c.toNat).map Char.ofNat

end StreamTable.Unicode
