import StreamTable.Page.ScriptValue

/-! The named data entries of an element. -/

namespace StreamTable.Page

abbrev Dataset := List (String × String)

namespace Dataset

/-- Whether a dash stands before a small letter, which no entry name may have. -/
def hasDashedLetter : List Char → Bool
  | '-' :: c :: rest => ('a' ≤ c && c ≤ 'z') || hasDashedLetter (c :: rest)
  | _ :: rest => hasDashedLetter rest
  | [] => false

/-- A character that cannot be part of an attribute name. -/
def isForbidden (c : Char) : Bool := [' ', '\t', '\n', '\r', '\x0c', '\x00', '/', '=', '>'].contains c

/-- What is thrown over a name that no entry can have. -/
def nameError? (name : String) : Option ScriptValue :=
  if hasDashedLetter name.toList then some (.error "SyntaxError" ("dataset." ++ name))
  else if name.toList.any isForbidden then some (.error "InvalidCharacterError" ("dataset." ++ name))
  else none

end Dataset

end StreamTable.Page
