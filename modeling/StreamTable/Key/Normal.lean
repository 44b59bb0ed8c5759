import StreamTable.Unicode.Composition
import StreamTable.Unicode.LowerCase

/-! Row keys. A key is compared in its normal form, where blanks are single
spaces between words and compatibility variants of a character are one. The
identity of a key is its normal form in lower case. -/

namespace StreamTable.Key

open Unicode

/-- Words after a first one, a space before each that a blank run preceded. -/
def joinWords (owed : Bool) : List Char → List Char
  | [] => []
  | c :: rest =>
    if isBlank c then joinWords true rest
    else if owed then ' ' :: c :: joinWords false rest
    else c :: joinWords false rest

/-- Removes the blanks at both ends and makes every other run of them one space. -/
def collapse (text : List Char) : List Char := joinWords false (text.dropWhile isBlank)

def normalizeText (text : List Char) : List Char := nfkc (collapse text)

def normalize (key : String) : String := String.ofList (normalizeText key.toList)

def identityText (text : List Char) : List Char := lowerText (normalizeText text)

/-- What two keys of the same row have in common. -/
def identity (key : String) : String := String.ofList (identityText key.toList)

/-- A key in lower case but otherwise as it is. -/
def lowerCase (key : String) : String := String.ofList (lowerText key.toList)

/-- A missing key reads as the empty one. -/
def ofRaw (raw : Option String) : String := raw.getD ""

end StreamTable.Key
