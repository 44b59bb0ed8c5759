import StreamTable.Json.Reader

/-! The payload of an upsert: a JSON list of the values of a row. -/

namespace StreamTable

inductive PayloadError where
  | json (error : Json.Error)
  | notList (kind : Json.Kind)
  deriving DecidableEq, Repr

def PayloadError.message : PayloadError → String
  | json error => "upsert payload is not valid JSON: " ++ error.message
  | notList kind => "upsert payload is a JSON " ++ kind.name ++ ", expected an array"

def upsertValues (payload : String) : Except PayloadError (List Json.Value) :=
  match Json.read payload with
  | .error error => .error (.json error)
  | .ok (.array items) => .ok items
  | .ok value => .error (.notList value.kind)

end StreamTable
