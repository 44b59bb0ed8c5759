import StreamTable.Json.Decimal
import StreamTable.Json.Value

/-! The compact text of a JSON value. -/

namespace StreamTable.Json

def hexDigits (value : Nat) : List Char := Nat.toDigits 16 value

def escaped (c : Char) : List Char :=
  if c = '"' then ['\\', '"']
  else if c = '\\' then ['\\', '\\']
  else if c = '\x08' then ['\\', 'b']
  else if c = '\x0c' then ['\\', 'f']
  else if c = '\n' then ['\\', 'n']
  else if c = '\r' then ['\\', 'r']
  else if c = '\t' then ['\\', 't']
  else if c.toNat < 0x10 then ['\\', 'u', '0', '0', '0'] ++ hexDigits c.toNat
  else if c.toNat < 0x20 then ['\\', 'u', '0', '0'] ++ hexDigits c.toNat
  else [c]

def stringText (text : String) : List Char := '"' :: text.toList.flatMap escaped ++ ['"']

/-- Doubles from the least of these exponents to the greatest are written with
all their places, the others with an exponent. -/
def leastPlainExponent : Int := -5
def greatestPlainExponent : Int := 15

/-- Digits written with a point, and a zero where a side of it is empty. -/
def plainText (digits : List Char) (exponent : Int) : List Char :=
  if exponent < 0 then '0' :: '.' :: List.replicate (exponent.natAbs - 1) '0' ++ digits
  else
    let whole := exponent.toNat + 1
    let fraction := digits.drop whole
    digits.take whole ++ List.replicate (whole - digits.length) '0'
      ++ '.' :: (if fraction.isEmpty then ['0'] else fraction)

/-- Digits written with one place before the point, and their exponent. -/
def scientificText (digits : List Char) (exponent : Int) : List Char :=
  let fraction := digits.drop 1
  digits.take 1 ++ (if fraction.isEmpty then [] else '.' :: fraction)
    ++ 'e' :: (if exponent < 0 then '-' else '+') :: Nat.toDigits 10 exponent.natAbs

def signBit : Nat := 0x8000000000000000

def doubleText (value : Float) : List Char :=
  let bits := value.toBits.toNat
  let size := bits % signBit
  let sign := if bits < signBit then [] else ['-']
  sign ++
    if size = 0 then ['0', '.', '0']
    else
      let decimal := (Binary.ofBits size).shortest
      let digits := Nat.toDigits 10 decimal.digits
      if leastPlainExponent ≤ decimal.exponent && decimal.exponent ≤ greatestPlainExponent then
        plainText digits decimal.exponent
      else scientificText digits decimal.exponent

def Number.text : Number → List Char
  | integer value => (toString value).toList
  | float value => doubleText value

def commaSeparated : List (List Char) → List Char
  | [] => []
  | [text] => text
  | text :: rest => text ++ ',' :: commaSeparated rest

mutual

def Value.characters : Value → List Char
  | .null => "null".toList
  | .boolean true => "true".toList
  | .boolean false => "false".toList
  | .number number => number.text
  | .string text => stringText text
  | .array items => '[' :: commaSeparated (itemTexts items) ++ [']']
  | .object fields => '{' :: commaSeparated (fieldTexts fields) ++ ['}']

def itemTexts : List Value → List (List Char)
  | [] => []
  | item :: rest => item.characters :: itemTexts rest

def fieldTexts : List (String × Value) → List (List Char)
  | [] => []
  | (name, value) :: rest => (stringText name ++ ':' :: value.characters) :: fieldTexts rest

end

def Value.text (value : Value) : String := String.ofList value.characters

end StreamTable.Json
