import StreamTable.Markup.Reference

/-! The text of a markup fragment: tags are dropped and references are replaced.
This reads well-formed fragments and is no protection against others. -/

namespace StreamTable.Markup

/-- The bytes from a reference's start to its end that are searched at most. -/
def referenceReach : Nat := 10

/-- The text before the first semicolon and the text after it, if it begins
within a number of bytes. -/
def splitAtSemicolon? : Nat → List Char → Option (List Char × List Char)
  | _, [] => none
  | reach, c :: rest =>
    if c = ';' then some ([], rest)
    else if reach < c.utf8Size then none
    else (splitAtSemicolon? (reach - c.utf8Size) rest).map fun (name, after) => (c :: name, after)

def readReference? (text : List Char) : Option (Char × List Char) :=
  (splitAtSemicolon? (referenceReach - 1) text).bind fun (name, after) =>
    (reference? name).map fun c => (c, after)

/-- The text after the tag that starts here, if the tag ends. -/
def afterTag? : List Char → Option (List Char)
  | [] => none
  | c :: rest => if c = '>' then some rest else afterTag? rest

/-- One step through a fragment: the text it yields and the rest to be read. An
unfinished tag ends the fragment. -/
def step : List Char → List Char × List Char
  | [] => ([], [])
  | '<' :: rest => ([], (afterTag? rest).getD [])
  | '&' :: rest =>
    match readReference? rest with
    | some (c, after) => ([c], after)
    | none => (['&'], rest)
  | c :: rest => ([c], rest)

/-- Takes steps until nothing is left, at most as many as the bound. -/
def readText : Nat → List Char → List Char
  | 0, _ => []
  | _, [] => []
  | bound + 1, text =>
    let (yielded, rest) := step text
    yielded ++ readText bound rest

/-- The text of a fragment. Every step shortens the rest, so its length bounds
their number. -/
def textOf (fragment : List Char) : List Char := readText fragment.length fragment

def textContent (fragment : String) : String := String.ofList (textOf fragment.toList)

end StreamTable.Markup
