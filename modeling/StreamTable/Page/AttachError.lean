import StreamTable.Text.Quoted

/-! Why a table cannot be attached to a stream. -/

namespace StreamTable.Page

inductive AttachError where
  | noWindow
  | noDocument
  | tableNotFound (id : String)
  | notATable (id : String)
  | stream (detail : String)
  | listener (detail : String)
  | dom (detail : String)
  deriving DecidableEq, Repr

namespace AttachError

def name : AttachError → String
  | noWindow => "NoWindow"
  | noDocument => "NoDocument"
  | tableNotFound _ => "TableNotFound"
  | notATable _ => "NotATable"
  | stream _ => "Stream"
  | listener _ => "Listener"
  | dom _ => "Dom"

def message : AttachError → String
  | noWindow => "no global `window` exists"
  | noDocument => "the window or table has no document"
  | tableNotFound id => "table not found: " ++ Text.quoted id
  | notATable id => "element " ++ Text.quoted id ++ " is not a <table>"
  | stream detail => "couldn't open the event stream: " ++ detail
  | listener detail => "couldn't listen for stream events: " ++ detail
  | dom detail => "DOM operation failed: " ++ detail

end AttachError

end StreamTable.Page
