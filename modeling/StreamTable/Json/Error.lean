/-! Why a text is no JSON document, and where. Errors are found at a number of
bytes into the text and are reported by line and column. -/

namespace StreamTable.Json

inductive Cause where
  | endInValue
  | endInList
  | endInObject
  | endInString
  | expectedColon
  | expectedCommaOrBracket
  | expectedCommaOrBrace
  | expectedWord
  | expectedValue
  | invalidEscape
  | invalidNumber
  | numberOutOfRange
  | loneSurrogate
  | missingSurrogate
  | controlCharacter
  | nameNotString
  | trailingComma
  | trailingCharacters
  | tooDeep
  deriving DecidableEq, Repr

def Cause.message : Cause → String
  | endInValue => "EOF while parsing a value"
  | endInList => "EOF while parsing a list"
  | endInObject => "EOF while parsing an object"
  | endInString => "EOF while parsing a string"
  | expectedColon => "expected `:`"
  | expectedCommaOrBracket => "expected `,` or `]`"
  | expectedCommaOrBrace => "expected `,` or `\x7d`"
  | expectedWord => "expected ident"
  | expectedValue => "expected value"
  | invalidEscape => "invalid escape"
  | invalidNumber => "invalid number"
  | numberOutOfRange => "number out of range"
  | loneSurrogate => "lone leading surrogate in hex escape"
  | missingSurrogate => "unexpected end of hex escape"
  | controlCharacter => "control character (\\u0000-\\u001F) found while parsing a string"
  | nameNotString => "key must be a string"
  | trailingComma => "trailing comma"
  | trailingCharacters => "trailing characters"
  | tooDeep => "recursion limit exceeded"

/-- An error and the number of bytes that had been read when it was found. -/
structure Fault where
  cause : Cause
  offset : Nat
  deriving DecidableEq, Repr

/-- A line, counted from one, and the number of bytes before the place on it. -/
structure Position where
  line : Nat
  column : Nat
  deriving DecidableEq, Repr

/-- Moves a position over a number of bytes of a text. The bytes may end inside
a character. -/
def Position.advance (position : Position) : List Char → Nat → Position
  | [], _ => position
  | c :: rest, bytes =>
    if bytes < c.utf8Size then { position with column := position.column + bytes }
    else
      let next := if c = '\n' then ⟨position.line + 1, 0⟩
        else { position with column := position.column + c.utf8Size }
      next.advance rest (bytes - c.utf8Size)

structure Error where
  cause : Cause
  position : Position
  deriving DecidableEq, Repr

/-- Says where in its text a fault lies. -/
def Fault.locate (fault : Fault) (text : List Char) : Error :=
  ⟨fault.cause, Position.advance ⟨1, 0⟩ text fault.offset⟩

def Error.message (error : Error) : String :=
  error.cause.message ++ " at line " ++ toString error.position.line
    ++ " column " ++ toString error.position.column

end StreamTable.Json
