import StreamTable.Json.Value

/-! What a written number denotes. Its digits are collected into a 64-bit
significand with a decimal exponent; digits that no longer fit only count
towards the exponent. A double is then made from the two with one correctly
rounded power of ten, so it can differ from the nearest double in its last bit. -/

namespace StreamTable.Json

def significandLimit : Nat := 0xFFFFFFFFFFFFFFFF

/-- The largest exponent. The least is one further from zero. -/
def exponentLimit : Nat := 0x7FFFFFFF

def negativeLimit : Nat := 0x8000000000000000

def fits (limit value digit : Nat) : Bool := 10 * value + digit ≤ limit

/-- The power of ten nearest to the true one, for exponents up to 308. -/
def powerOfTen (exponent : Nat) : Float := Float.ofScientific 1 false exponent

/-- Divides by a power of ten. Beyond 308 the division is done in steps, until
nothing is left of the value. -/
def divideByPower (value : Float) (exponent : Nat) : Float :=
  if exponent ≤ 308 then value / powerOfTen exponent
  else if value == 0 then value
  else divideByPower (value / powerOfTen 308) (exponent - 308)
termination_by exponent

/-- The double that a significand and an exponent denote, if it is finite. -/
def doubleOf? (significand : Nat) (exponent : Int) : Option Float :=
  let value := significand.toUInt64.toFloat
  if exponent < 0 then some (divideByPower value exponent.natAbs)
  else if 308 < exponent then if value == 0 then some value else none
  else
    let product := value * powerOfTen exponent.toNat
    if product.isInf then none else some product

def clampExponent (exponent : Int) : Int := max (-exponentLimit - 1) (min exponent exponentLimit)

def Number.ofDouble (negative : Bool) (value : Float) : Number := .float (if negative then -value else value)

/-- The number without point and exponent that has a significand. Minus zero and
what is below the 64-bit integers are doubles. -/
def Number.ofInteger (negative : Bool) (significand : Nat) : Number :=
  if negative then
    if significand = 0 || negativeLimit < significand then .ofDouble true significand.toUInt64.toFloat
    else .integer (-significand)
  else .integer significand

end StreamTable.Json
