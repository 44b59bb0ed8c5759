/-! The shortest decimal of a double: the fewest digits that are nearer to it
than to every other double, and of those the ones nearest to it. Doubles and
decimals are compared exactly, as fractions of natural numbers. -/

namespace StreamTable.Json

/-- A positive fraction of two natural numbers. -/
structure Fraction where
  numerator : Nat
  denominator : Nat

namespace Fraction

def ofPower (base : Nat) (exponent : Int) : Fraction :=
  if exponent < 0 then ⟨1, Nat.pow base exponent.natAbs⟩ else ⟨Nat.pow base exponent.toNat, 1⟩

def times (a b : Fraction) : Fraction := ⟨a.numerator * b.numerator, a.denominator * b.denominator⟩

def isBelow (a b : Fraction) : Bool := a.numerator * b.denominator < b.numerator * a.denominator

end Fraction

/-- A positive double `mantissa * 2 ^ exponent`. -/
structure Binary where
  mantissa : Nat
  exponent : Int

/-- Decimal digits, the first of which stands for `10 ^ exponent`. -/
structure Decimal where
  digits : Nat
  exponent : Int

namespace Binary

def leastNormal : Nat := 0x10000000000000

/-- The exponent of the smallest doubles. -/
def leastExponent : Int := -1074

/-- The double of some bits, the sign aside: a mantissa below its exponent. -/
def ofBits (bits : Nat) : Binary :=
  let field : Nat := bits / leastNormal
  let fraction : Nat := bits % leastNormal
  if field = 0 then ⟨fraction, leastExponent⟩
  else ⟨leastNormal + fraction, leastExponent + (field - 1 : Nat)⟩

def fraction (binary : Binary) : Fraction :=
  Fraction.times ⟨binary.mantissa, 1⟩ (.ofPower 2 binary.exponent)

/-- The ends of the interval of numbers that are read as this double. Below a
power of two the doubles lie twice as close. -/
def bounds (binary : Binary) : Fraction × Fraction :=
  let quarter := Fraction.ofPower 2 (binary.exponent - 2)
  let below := if binary.mantissa = leastNormal ∧ leastExponent < binary.exponent then 1 else 2
  (.times ⟨4 * binary.mantissa - below, 1⟩ quarter, .times ⟨4 * binary.mantissa + 2, 1⟩ quarter)

/-- Whether a number is read as this double. The ends belong to the even mantissas. -/
def covers (binary : Binary) (number : Fraction) : Bool :=
  let (low, high) := binary.bounds
  if binary.mantissa % 2 = 0 then !number.isBelow low && !high.isBelow number
  else low.isBelow number && number.isBelow high

def leadingExponent (binary : Binary) : Nat → Int → Int
  | 0, exponent => exponent
  | bound + 1, exponent =>
    if binary.fraction.isBelow (.ofPower 10 (exponent + 1)) then exponent
    else binary.leadingExponent bound (exponent + 1)

/-- The nearest decimal with a number of digits that is read as this double, if
there is one. An exact tie goes to the even digit. -/
def rounded? (binary : Binary) (leading : Int) (count : Nat) : Option Decimal :=
  let unit := Fraction.ofPower 10 (leading + 1 - count)
  let scaled : Fraction :=
    ⟨binary.fraction.numerator * unit.denominator, binary.fraction.denominator * unit.numerator⟩
  let floor := scaled.numerator / scaled.denominator
  let twice := 2 * (scaled.numerator % scaled.denominator)
  let upFirst := scaled.denominator < twice ∨ (twice = scaled.denominator ∧ floor % 2 = 1)
  let candidates := if upFirst then [floor + 1, floor] else [floor, floor + 1]
  (candidates.find? fun digits => 0 < digits && binary.covers (.times ⟨digits, 1⟩ unit)).map fun digits =>
    if digits = Nat.pow 10 count then ⟨1, leading + 1⟩ else ⟨digits, leading⟩

/-- The shortest decimal, tried with ever more digits; seventeen always suffice. -/
def shortest (binary : Binary) : Decimal :=
  let estimate := (Int.ofNat (binary.mantissa.log2) + binary.exponent) * 30103 / 100000 - 1
  let leading := binary.leadingExponent 4 estimate
  ((List.range 17).findSome? fun before => binary.rounded? leading (before + 1)).getD
    ⟨binary.mantissa, leading⟩

end Binary

end StreamTable.Json
