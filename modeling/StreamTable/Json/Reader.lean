import StreamTable.Json.Error
import StreamTable.Json.Number

/-! Reading JSON documents from left to right. The first fault met is the one
reported. Values nest to a fixed depth, which is the recursion of the reader;
the loops within one value are bounded by the length of the document. -/

namespace StreamTable.Json

/-- The text still to be read and the number of bytes already read. -/
structure Cursor where
  rest : List Char
  offset : Nat

abbrev Reader (α : Type) := StateT Cursor (Except Fault) α

namespace Reader

variable {α : Type}

/-- Fails over what has been read. -/
def failHere (cause : Cause) : Reader α := fun cursor => .error ⟨cause, cursor.offset⟩

/-- Fails over the next byte, or over the end if there is none. -/
def reject (cause : Cause) : Reader α := fun cursor =>
  .error ⟨cause, if cursor.rest.isEmpty then cursor.offset else cursor.offset + 1⟩

/-- Fails over the next byte, for another cause if there is none. -/
def rejectOr (atEnd cause : Cause) : Reader α := fun cursor =>
  reject (if cursor.rest.isEmpty then atEnd else cause) cursor

def peek : Reader (Option Char) := fun cursor => .ok (cursor.rest.head?, cursor)

def skip : Reader Unit := fun cursor =>
  match cursor.rest with
  | [] => .ok ((), cursor)
  | c :: rest => .ok ((), ⟨rest, cursor.offset + c.utf8Size⟩)

def isBlank (c : Char) : Bool := c == ' ' || c == '\t' || c == '\n' || c == '\r'

/-- Passes over blanks and shows the character after them. -/
def peekPastBlanks : Reader (Option Char) := fun cursor =>
  let rest := cursor.rest.dropWhile isBlank
  .ok (rest.head?, ⟨rest, cursor.offset + (cursor.rest.takeWhile isBlank).length⟩)

def word : List Char → Reader Unit
  | [] => pure ()
  | c :: rest => do
    if (← peek) = some c then
      skip
      word rest
    else rejectOr .endInValue .expectedWord

def digits : Reader (List Nat) := fun cursor =>
  let run := cursor.rest.takeWhile Char.isDigit
  .ok (run.map fun c => c.toNat - '0'.toNat,
    ⟨cursor.rest.dropWhile Char.isDigit, cursor.offset + run.length⟩)

/-- Puts digits after those of a number up to the first that no longer fits.
That one and all later ones are left over. -/
def appendDigits (limit : Nat) : Nat → List Nat → Nat × List Nat
  | value, [] => (value, [])
  | value, digit :: rest =>
    if fits limit value digit then appendDigits limit (10 * value + digit) rest
    else (value, digit :: rest)

def double (negative : Bool) (significand : Nat) (exponent : Int) : Reader Number :=
  match doubleOf? significand exponent with
  | some value => pure (.ofDouble negative value)
  | none => failHere .numberOutOfRange

def exponentPart (negative : Bool) (significand : Nat) (exponent : Int) : Reader Number := do
  let sign ← peek
  if sign = some '+' || sign = some '-' then skip
  let run ← digits
  if run.isEmpty then rejectOr .endInValue .invalidNumber
  else
    let (written, excess) := appendDigits exponentLimit 0 run
    if excess.isEmpty then
      let total := if sign = some '-' then exponent - written else exponent + written
      double negative significand (clampExponent total)
    else if significand ≠ 0 && sign ≠ some '-' then
      fun cursor => .error ⟨.numberOutOfRange, cursor.offset - excess.length + 1⟩
    else pure (.ofDouble negative 0)

def fractionPart (negative : Bool) (significand : Nat) (exponent : Int) : Reader Number := do
  let run ← digits
  if run.isEmpty then rejectOr .endInValue .invalidNumber
  else
    let (significand, excess) := appendDigits significandLimit significand run
    let exponent := exponent - (run.length - excess.length : Nat)
    match ← peek with
    | some 'e' | some 'E' => do skip; exponentPart negative significand exponent
    | _ => double negative significand exponent

def number (negative : Bool) : Reader Number := do
  let run ← if (← peek) = some '0' then do skip; pure [0] else digits
  if run.isEmpty then rejectOr .endInValue .invalidNumber
  else if run = [0] && (← peek).any Char.isDigit then reject .invalidNumber
  else
    let (significand, excess) := appendDigits significandLimit 0 run
    match ← peek with
    | some '.' => do skip; fractionPart negative significand excess.length
    | some 'e' | some 'E' => do skip; exponentPart negative significand excess.length
    | _ =>
      if excess.isEmpty then pure (.ofInteger negative significand)
      else double negative significand excess.length

def hexDigit? (c : Char) : Option Nat :=
  if '0' ≤ c ∧ c ≤ '9' then some (c.toNat - '0'.toNat)
  else if 'a' ≤ c ∧ c ≤ 'f' then some (c.toNat - 'a'.toNat + 10)
  else if 'A' ≤ c ∧ c ≤ 'F' then some (c.toNat - 'A'.toNat + 10)
  else none

def fourHexDigits : Reader Nat := fun cursor =>
  let next := cursor.rest.take 4
  let bytes := next.foldl (fun bytes c => bytes + c.utf8Size) 0
  if bytes < 4 then .error ⟨.endInString, cursor.offset + bytes⟩
  else match next.mapM hexDigit? with
    | none => .error ⟨.invalidEscape, cursor.offset + 4⟩
    | some digits => .ok (digits.foldl (16 * · + ·) 0, ⟨cursor.rest.drop 4, cursor.offset + 4⟩)

def isHighSurrogate (unit : Nat) : Bool := 0xD800 ≤ unit && unit ≤ 0xDBFF

def isLowSurrogate (unit : Nat) : Bool := 0xDC00 ≤ unit && unit ≤ 0xDFFF

def expectInString (c : Char) : Reader Unit := do
  if (← peek) = some c then skip else rejectOr .endInString .missingSurrogate

/-- Reads the digits of a numeric escape, and the escape of the second half of
its surrogate pair if the first is half of one. -/
def numericEscape : Reader Char := do
  let unit ← fourHexDigits
  if isLowSurrogate unit then failHere .loneSurrogate
  else if isHighSurrogate unit then
    expectInString '\\'
    expectInString 'u'
    let second ← fourHexDigits
    if isLowSurrogate second then
      pure (Char.ofNat (0x10000 + (unit - 0xD800) * 0x400 + (second - 0xDC00)))
    else failHere .loneSurrogate
  else pure (Char.ofNat unit)

/-- Reads an escape, after its backslash. -/
def escape : Reader Char := do
  match ← peek with
  | some '"' => skip; pure '"'
  | some '\\' => skip; pure '\\'
  | some '/' => skip; pure '/'
  | some 'b' => skip; pure '\x08'
  | some 'f' => skip; pure '\x0c'
  | some 'n' => skip; pure '\n'
  | some 'r' => skip; pure '\r'
  | some 't' => skip; pure '\t'
  | some 'u' => skip; numericEscape
  | _ => rejectOr .endInString .invalidEscape

/-- Reads a string, after its opening quote. The characters read so far stand in
reverse order. -/
def stringAfter : Nat → List Char → Reader String
  | 0, _ => reject .endInString
  | bound + 1, before => do
    match ← peek with
    | none => reject .endInString
    | some '"' => skip; pure (String.ofList before.reverse)
    | some '\\' => skip; stringAfter bound ((← escape) :: before)
    | some c =>
      if c.toNat < 0x20 then reject .controlCharacter
      else
        skip
        stringAfter bound (c :: before)

def itemsAfter (item : Reader Value) : Nat → List Value → Reader (List Value)
  | 0, _ => reject .endInList
  | bound + 1, before => do
    match ← peekPastBlanks with
    | some ']' => skip; pure before.reverse
    | some ',' =>
      skip
      if (← peekPastBlanks) = some ']' then reject .trailingComma
      else itemsAfter item bound ((← item) :: before)
    | _ => rejectOr .endInList .expectedCommaOrBracket

def items (item : Reader Value) (bound : Nat) : Reader (List Value) := do
  match ← peekPastBlanks with
  | none => reject .endInList
  | some ']' => skip; pure []
  | some _ => itemsAfter item bound [← item]

def field (item : Reader Value) (bound : Nat) : Reader (String × Value) := do
  if (← peek) = some '"' then
    skip
    let name ← stringAfter bound []
    if (← peekPastBlanks) = some ':' then
      skip
      pure (name, ← item)
    else rejectOr .endInObject .expectedColon
  else reject .nameNotString

def fieldsAfter (item : Reader Value) (length : Nat) :
    Nat → List (String × Value) → Reader (List (String × Value))
  | 0, _ => reject .endInObject
  | bound + 1, before => do
    match ← peekPastBlanks with
    | some '}' => skip; pure before
    | some ',' =>
      skip
      match ← peekPastBlanks with
      | none => reject .endInValue
      | some '}' => reject .trailingComma
      | some _ =>
        let (name, value) ← field item length
        fieldsAfter item length bound (Value.setField name value before)
    | _ => rejectOr .endInObject .expectedCommaOrBrace

def fields (item : Reader Value) (bound : Nat) : Reader (List (String × Value)) := do
  match ← peekPastBlanks with
  | none => reject .endInObject
  | some '}' => skip; pure []
  | some _ =>
    let (name, value) ← field item bound
    fieldsAfter item bound bound [(name, value)]

/-- Reads a value, given how to read the values in it, if they may nest at all. -/
def valueWith (bound : Nat) (nested : Option (Reader Value)) : Reader Value := do
  match ← peekPastBlanks with
  | none => reject .endInValue
  | some 'n' => skip; word ['u', 'l', 'l']; pure .null
  | some 't' => skip; word ['r', 'u', 'e']; pure (.boolean true)
  | some 'f' => skip; word ['a', 'l', 's', 'e']; pure (.boolean false)
  | some '-' => skip; return .number (← number true)
  | some '"' => skip; return .string (← stringAfter bound [])
  | some '[' =>
    match nested with
    | none => reject .tooDeep
    | some item => skip; return .array (← items item bound)
  | some '{' =>
    match nested with
    | none => reject .tooDeep
    | some item => skip; return .object (← fields item bound)
  | some c => if c.isDigit then return .number (← number false) else reject .expectedValue

def value (bound : Nat) : Nat → Reader Value
  | 0 => valueWith bound none
  | depth + 1 => valueWith bound (some (value bound depth))

def depthLimit : Nat := 127

def document (bound : Nat) : Reader Value := do
  let value ← value bound depthLimit
  match ← peekPastBlanks with
  | none => pure value
  | some _ => reject .trailingCharacters

end Reader

def read (text : String) : Except Error Value :=
  let characters := text.toList
  match Reader.document (characters.length + 1) ⟨characters, 0⟩ with
  | .ok (value, _) => .ok value
  | .error fault => .error (fault.locate characters)

end StreamTable.Json
