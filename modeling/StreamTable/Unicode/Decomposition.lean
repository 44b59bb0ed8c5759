import StreamTable.Unicode.Image
import StreamTable.Unicode.Property
import StreamTable.Unicode.Tables.Decomposition.Alphabetic
import StreamTable.Unicode.Tables.Decomposition.EnclosedEastAsian
import StreamTable.Unicode.Tables.Decomposition.Extended
import StreamTable.Unicode.Tables.Decomposition.Ideographs
import StreamTable.Unicode.Tables.Decomposition.Presentation
import StreamTable.Unicode.Tables.Decomposition.Supplementary
import StreamTable.Unicode.Tables.Decomposition.SupplementaryIdeographs
import StreamTable.Unicode.Tables.Decomposition.Symbols

/-! Compatibility decomposition (NFKD): every character is replaced by its full
decomposition, and then marks that follow one starter are put in the order of
their combining classes, marks of one class keeping their order. -/

namespace StreamTable.Unicode

def decompositionsFor (point : Nat) : RangeMap Image :=
  if point < 0x1D00 then alphabeticDecompositions
  else if point < 0x2000 then extendedDecompositions
  else if point < 0x3100 then symbolDecompositions
  else if point < 0xF900 then enclosedDecompositions
  else if point < 0xFB00 then ideographDecompositions
  else if point < 0x10000 then presentationDecompositions
  else if point < 0x2F800 then supplementaryDecompositions
  else supplementaryIdeographDecompositions

namespace Hangul

/-! Precomposed syllables are numbered by leading consonant, vowel and optional
trailing consonant, so both directions are arithmetic. -/

def syllableBase : Nat := 0xAC00
def leadBase : Nat := 0x1100
def vowelBase : Nat := 0x1161
/-- One below the first trailing consonant: number zero stands for none. -/
def trailBase : Nat := 0x11A7
def leadCount : Nat := 19
def vowelCount : Nat := 21
def trailCount : Nat := 28
def syllableCount : Nat := leadCount * vowelCount * trailCount

def isSyllable (point : Nat) : Bool := syllableBase ≤ point && point < syllableBase + syllableCount

def decompose (point : Nat) : List Nat :=
  let number := point - syllableBase
  let lead := leadBase + number / (vowelCount * trailCount)
  let vowel := vowelBase + number / trailCount % vowelCount
  let trail := number % trailCount
  if trail = 0 then [lead, vowel] else [lead, vowel, trailBase + trail]

def compose? (first second : Nat) : Option Nat :=
  if leadBase ≤ first && first < leadBase + leadCount
      && vowelBase ≤ second && second < vowelBase + vowelCount then
    some (syllableBase + ((first - leadBase) * vowelCount + (second - vowelBase)) * trailCount)
  else if isSyllable first && (first - syllableBase) % trailCount == 0
      && trailBase < second && second < trailBase + trailCount then
    some (first + (second - trailBase))
  else none

end Hangul

def decompose (c : Char) : List Char :=
  if Hangul.isSyllable c.toNat then (Hangul.decompose c.toNat).map Char.ofNat
  else (decompositionsFor c.toNat).imageOf c

/-- Puts a character before a text whose marks are in order, past those marks
of the text's front that have a lower class. A starter stays in front. -/
def insertByClass (c : Char) : List Char → List Char
  | [] => [c]
  | next :: rest =>
    if combiningClass next < combiningClass c && combiningClass next != 0 then
      next :: insertByClass c rest
    else c :: next :: rest

/-- Orders the marks between starters by class. -/
def orderMarks (text : List Char) : List Char := text.foldr insertByClass []

def nfkd (text : List Char) : List Char := orderMarks (text.flatMap decompose)

end StreamTable.Unicode
