import StreamTable.Markup.TextContent

/-! Ready-made sanitizers: functions from an untrusted fragment to one that is
shown in its place. -/

namespace StreamTable.Sanitizer

/-- Replaces the occurrences of a text that do not overlap, from left to right,
given how many characters of the last one are still to be passed over. -/
def replaceFrom (target replacement : List Char) : Nat → List Char → List Char
  | _, [] => []
  | passing + 1, _ :: rest => replaceFrom target replacement passing rest
  | 0, c :: rest =>
    if target.isPrefixOf (c :: rest) then
      replacement ++ replaceFrom target replacement (target.length - 1) rest
    else c :: replaceFrom target replacement 0 rest

def replacing (target replacement fragment : String) : String :=
  String.ofList (replaceFrom target.toList replacement.toList 0 fragment.toList)

def constant (shown : String) (_ : String) : String := shown

def textOnly (fragment : String) : String := Markup.textContent fragment

end StreamTable.Sanitizer
