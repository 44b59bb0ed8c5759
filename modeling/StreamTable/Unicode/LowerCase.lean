import StreamTable.Unicode.Image
import StreamTable.Unicode.Property
import StreamTable.Unicode.Tables.LowerCase

/-! Lower case of characters and of texts. They differ in one letter: in a text
a capital sigma at the end of a word becomes a final sigma. -/

namespace StreamTable.Unicode

/-- The lower case of one character by itself, which may be two characters. -/
def lower (c : Char) : List Char := lowerCases.imageOf c

/-- Whether the nearest character that case rules do not ignore is cased. -/
def nearestIsCased : List Char → Bool
  | [] => false
  | c :: rest => if isCaseIgnorable c then nearestIsCased rest else isCased c

def capitalSigma : Char := 'Σ'
def smallSigma : Char := 'σ'
def finalSigma : Char := 'ς'

/-- Lower case given the text already read, its last character first. -/
def lowerAfter (before : List Char) : List Char → List Char
  | [] => []
  | c :: rest =>
    let image :=
      if c = capitalSigma then
        [if nearestIsCased before && !nearestIsCased rest then finalSigma else smallSigma]
      else lower c
    image ++ lowerAfter (c :: before) rest

def lowerText (text : List Char) : List Char := lowerAfter [] text

end StreamTable.Unicode
