/-! Character references: a name or a number between `&` and `;` that stands for
one character. -/

namespace StreamTable.Markup

def namedCharacters : List (List Char × Char) :=
  [(['a', 'm', 'p'], '&'), (['l', 't'], '<'), (['g', 't'], '>'), (['q', 'u', 'o', 't'], '"'),
    (['a', 'p', 'o', 's'], '\''), (['n', 'b', 's', 'p'], '\xa0')]

def digit? (base : Nat) (c : Char) : Option Nat :=
  let value? :=
    if '0' ≤ c ∧ c ≤ '9' then some (c.toNat - '0'.toNat)
    else if 'a' ≤ c ∧ c ≤ 'f' then some (c.toNat - 'a'.toNat + 10)
    else if 'A' ≤ c ∧ c ≤ 'F' then some (c.toNat - 'A'.toNat + 10)
    else none
  value?.filter (· < base)

/-- The number that digits write after those of a value. -/
def digits? (base : Nat) : Nat → List Char → Option Nat
  | value, [] => some value
  | value, c :: rest =>
    match digit? base c with
    | none => none
    | some digit => digits? base (base * value + digit) rest

/-- A number of at least one digit, which a plus sign may precede. -/
def number? (base : Nat) (text : List Char) : Option Nat :=
  let digits := if text.head? = some '+' then text.drop 1 else text
  if digits.isEmpty then none else digits? base 0 digits

def character? (point : Nat) : Option Char := if point.isValidChar then some (Char.ofNat point) else none

/-- The character that a reference stands for, given what is between its ends. -/
def reference? (name : List Char) : Option Char :=
  match namedCharacters.lookup name with
  | some c => some c
  | none =>
    match name with
    | '#' :: 'x' :: number | '#' :: 'X' :: number => (number? 16 number).bind character?
    | '#' :: number => (number? 10 number).bind character?
    | _ => none

end StreamTable.Markup
