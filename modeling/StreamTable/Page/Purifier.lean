import StreamTable.Page.ScriptValue

/-! The page's sanitizer, a script that may be missing, broken or replaced at any
time, and that may itself cause events while it runs. -/

namespace StreamTable.Page

inductive EventData where
  /-- An event that carries no message. -/
  | none
  | message (value : ScriptValue)
  deriving DecidableEq, Repr

structure PageEvent where
  name : String
  data : EventData
  deriving DecidableEq, Repr

/-- An event that is dispatched at the source of an attachment, or at the newest source. -/
structure Dispatch where
  event : PageEvent
  source : Option Nat := none
  deriving DecidableEq, Repr

instance : Coe PageEvent Dispatch := ⟨fun event => { event }⟩

instance : Coe (List PageEvent) (List Dispatch) := ⟨fun events => events.map fun event => { event }⟩

/-- The text that an event brings. Only text messages bring any. -/
def PageEvent.payload (event : PageEvent) : String :=
  match event.data with
  | .message (.string text) => text
  | _ => ""

inductive Reply where
  | returned (value : ScriptValue)
  | thrown (value : ScriptValue)
  deriving DecidableEq, Repr

/-- A call of the sanitizer: the events it causes, in order, and how it ends. -/
structure Cleaning where
  events : List Dispatch := []
  reply : Reply

mutual

/-- The method of the sanitizer, as it is found. -/
inductive SanitizeMethod where
  | unreadable
  | notFunction
  | function (call : String → Cleaning)
  /-- A function that leaves another sanitizer on the page each time it was called. -/
  | replacing (call : String → Cleaning) (left : String → Purifier)

/-- The sanitizer, as it is found on the page. -/
inductive Purifier where
  | undefined
  | null
  | unreadable
  /-- A value without members. -/
  | primitive
  | object (sanitize : SanitizeMethod)

end

namespace Purifier

/-- The function that cleans a fragment, if the sanitizer is loaded. -/
def function? : Purifier → Option (String → Cleaning)
  | object (.function call) | object (.replacing call _) => some call
  | _ => none

/-- The sanitizer that a call puts in place of the one that was called. -/
def replacement? : Purifier → String → Option Purifier
  | object (.replacing _ left), fragment => some (left fragment)
  | _, _ => none

def isLoaded (purifier : Purifier) : Bool := purifier.function?.isSome

end Purifier

end StreamTable.Page
