/-! JSON values. Objects hold each name once, in the order of the names, so
equal objects are equal lists. -/

namespace StreamTable.Json

/-- Integers of at most 64 bits are exact; every other number is a double. -/
inductive Number where
  | integer (value : Int)
  | float (value : Float)

inductive Value where
  | null
  | boolean (value : Bool)
  | number (value : Number)
  | string (value : String)
  | array (items : List Value)
  | object (fields : List (String × Value))

instance : Inhabited Value := ⟨.null⟩

inductive Kind where
  | null
  | boolean
  | number
  | string
  | array
  | object
  deriving DecidableEq, Repr

def Kind.name : Kind → String
  | null => "null"
  | boolean => "boolean"
  | number => "number"
  | string => "string"
  | array => "array"
  | object => "object"

namespace Value

def kind : Value → Kind
  | null => .null
  | boolean _ => .boolean
  | number _ => .number
  | string _ => .string
  | array _ => .array
  | object _ => .object

def isNull : Value → Bool
  | null => true
  | _ => false

/-- Sets a field at its place among the names, over an earlier value of the name. -/
def setField (name : String) (value : Value) : List (String × Value) → List (String × Value)
  | [] => [(name, value)]
  | (other, held) :: rest =>
    if name = other then (name, value) :: rest
    else if name < other then (name, value) :: (other, held) :: rest
    else (other, held) :: setField name value rest

def field? (name : String) : Value → Option Value
  | object fields => fields.lookup name
  | _ => none

end Value

end StreamTable.Json
