import StreamTable.Json.Reader

/-! Which row a removal names. Its payload is searched step by step for a value;
the first found decides, and it must be a string that is not empty. A payload
that is no JSON is itself the name. -/

namespace StreamTable

inductive TargetStep where
  /-- A field of an object, unless it is missing or null. -/
  | field (name : String)
  /-- The payload itself. -/
  | whole
  deriving DecidableEq, Repr

def TargetStep.extract? (step : TargetStep) (payload : Json.Value) : Option Json.Value :=
  match step with
  | field name => (payload.field? name).filter fun value => !value.isNull
  | whole => some payload

structure TargetChain where
  steps : List TargetStep := [.field "key", .field "s", .whole]
  deriving DecidableEq, Repr

/-- A name of a row, which the empty text is not. -/
def nonempty? (name : String) : Option String := if name.isEmpty then none else some name

def TargetChain.extract? (chain : TargetChain) (payload : Json.Value) : Option Json.Value :=
  chain.steps.findSome? fun step => step.extract? payload

/-- The name that a JSON payload gives. -/
def TargetChain.resolveValue (chain : TargetChain) (payload : Json.Value) : Option String :=
  match chain.extract? payload with
  | some (.string name) => nonempty? name
  | _ => none

def TargetChain.resolve (chain : TargetChain) (payload : String) : Option String :=
  match Json.read payload with
  | .ok value => chain.resolveValue value
  | .error _ => nonempty? payload

end StreamTable
