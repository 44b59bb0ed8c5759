import StreamTable.Unicode.Tables.Alphanumeric
import StreamTable.Unicode.Tables.Blanks
import StreamTable.Unicode.Tables.Cased
import StreamTable.Unicode.Tables.CombiningClass
import StreamTable.Unicode.Tables.Marks
import StreamTable.Unicode.Tables.Unprintable

/-! The character properties that keys and quoted texts depend on. -/

namespace StreamTable.Unicode

/-- A combining mark, of whatever combining class. -/
def isMark (c : Char) : Bool := marks.contains c.toNat

/-- A letter or a number of any script. -/
def isAlphanumeric (c : Char) : Bool := alphanumerics.contains c.toNat

def isBlank (c : Char) : Bool := blanks.contains c.toNat

def isCased (c : Char) : Bool := casedLetters.contains c.toNat

def isCaseIgnorable (c : Char) : Bool := caseIgnorables.contains c.toNat

/-- A character that shows nothing of its own, or joins the one before it. -/
def isUnprintable (c : Char) : Bool := unprintables.contains c.toNat || graphemeExtenders.contains c.toNat

/-- The canonical combining class. Characters of class zero are starters. -/
def combiningClass (c : Char) : Nat :=
  match combiningClasses.find? c.toNat with
  | none => 0
  | some (_, value) => value

end StreamTable.Unicode
