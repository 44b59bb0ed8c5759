import StreamTable.Text.Quoted

/-! Values that the page's scripts return and throw, as far as a table can tell
them apart. -/

namespace StreamTable.Page

inductive ScriptValue where
  | undefined
  | null
  | number (value : Int)
  | string (text : String)
  | error (name message : String)
  deriving DecidableEq, Repr

def ScriptValue.description : ScriptValue → String
  | undefined => "JsValue(undefined)"
  | null => "JsValue(null)"
  | number value => "JsValue(" ++ toString value ++ ")"
  | string text => "JsValue(" ++ Text.quoted text ++ ")"
  | error name message => "JsValue(" ++ name ++ ": " ++ message ++ ")"

end StreamTable.Page
