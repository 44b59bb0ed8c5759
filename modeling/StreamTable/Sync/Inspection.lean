import StreamTable.Sync.Memory

/-! One line that shows all of a synchronizer over rows in memory. -/

namespace StreamTable.Inspection

open Text (quoted)

def list (items : List String) : String := "[" ++ ", ".intercalate items ++ "]"

def optional : Option String → String
  | none => "None"
  | some text => "Some(" ++ quoted text ++ ")"

def record (name : String) (fields : List (String × String)) : String :=
  name ++ " \x7b " ++ ", ".intercalate (fields.map fun (field, shown) => field ++ ": " ++ shown) ++ " \x7d"

def cell : Cell → String
  | .text text => "Text(" ++ quoted text ++ ")"
  | .html fragment => "Html(" ++ quoted fragment ++ ")"

def row (row : Row) : String :=
  record "Row" [("key", quoted row.key), ("cells", list (row.cells.map cell))]

def entry (entry : Entry) : String := "(" ++ row entry.row ++ ", " ++ optional entry.sortKey ++ ")"

def targetStep : TargetStep → String
  | .field name => "Field(" ++ quoted name ++ ")"
  | .whole => "Whole"

def htmlColumns (columns : HtmlColumns) : String :=
  "HtmlColumns(\x7b" ++ ", ".intercalate (columns.indices.map toString) ++ "\x7d)"

def eventNames (names : EventNames) : String :=
  record "EventNames"
    [("upsert", quoted names.upsert), ("remove", quoted names.remove), ("reset", quoted names.reset)]

def settings (settings : Settings) : String :=
  record "Config"
    [("html_columns", htmlColumns settings.htmlColumns),
      ("event_names", eventNames settings.eventNames),
      ("remove_target_chain",
        "RemoveTargetChain(" ++ list (settings.targetChain.steps.map targetStep) ++ ")"),
      ("sort_key_attribute", quoted settings.sortKeyAttribute),
      ("identity_attribute", quoted settings.identityAttribute)]

def synchronizer (synchronizer : Synchronizer) (sanitized : Bool) (entries : List Entry) : String :=
  record "TableSync"
    [("rows", record "VecRows" [("rows", list (entries.map entry))]),
      ("columns", toString synchronizer.columns),
      ("config", settings synchronizer.settings),
      ("sanitizer", toString sanitized),
      ("state", synchronizer.phase.name)]

end StreamTable.Inspection
